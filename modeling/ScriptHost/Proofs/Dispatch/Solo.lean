import ScriptHost.Proofs.Dispatch.Changes
import ScriptHost.Proofs.Dispatch.Progress
import ScriptHost.Proofs.Worker.Solo

/-! An operation that has the dispatcher to itself does what `dispatch` does: the steps it takes
lead from a dispatcher at rest to the dispatcher at rest and the answer that `respond`
describes. -/

namespace ScriptHost

variable {K : EngineKind}

namespace Dispatcher

/-- No operation is in progress, and the rest is as this dispatcher has it. -/
structure Mirrors (d : Dispatcher K) (s : Shared K) : Prop where
  limits : s.limits = d.limits
  settings : s.settings = d.settings
  plan : s.plan = d.plan
  next : s.next = d.next
  default : s.default = d.default
  table : s.table = d.activeHandles
  lock : s.lock = none
  workers : ∀ entry ∈ d.engines, ∃ worker, s.workers entry.1 = some worker ∧
    Worker.Rests entry.2 worker

variable {d : Dispatcher K} {trace : List Sight} {s s' middle : Shared K} {sight : Sight}
  {call handle : Nat} {answer : Except DispatchError (List UInt8)} {stage : Stage}

theorem Run.append {more : List Sight} (run : Run s trace middle) (rest : Run middle more s') :
    Run s (trace ++ more) s' := by
  induction rest with
  | nil => simpa using run
  | snoc _ step ih => simpa using ih.snoc step

/-- The call can go on alone to this answer, and leave the dispatcher like this. -/
def Ends (call : Nat) (s : Shared K) (outcome : Except DispatchError (List UInt8) × Dispatcher K) :
    Prop :=
  ∃ trace s', Run s trace s' ∧ dispatches trace = [] ∧ answers trace = [(call, outcome.1)] ∧
    Mirrors outcome.2 s'

theorem Ends.now (step : Step s (.answered call answer) s') (mirrors : Mirrors d s') :
    Ends call s (answer, d) :=
  ⟨_, _, Run.nil.snoc step, rfl, rfl, mirrors⟩

theorem Ends.step {outcome : Except DispatchError (List UInt8) × Dispatcher K}
    (step : Step s sight middle) (silent : sight.dispatched? = none ∧ sight.answered? = none)
    (ends : Ends call middle outcome) : Ends call s outcome := by
  obtain ⟨trace, s', run, begun, gave, mirrors⟩ := ends
  refine ⟨_, s', (Run.nil.snoc step).append run, ?_, ?_, mirrors⟩
  · simpa only [dispatches, List.nil_append, List.filterMap_append, List.filterMap_cons, silent.1,
      List.filterMap_nil] using begun
  · simpa only [answers, List.nil_append, List.filterMap_append, List.filterMap_cons, silent.2,
      List.filterMap_nil] using gave

/-- The worker goes on, and nobody else. -/
theorem Ends.work {outcome : Except DispatchError (List UInt8) × Dispatcher K} {events : List Event}
    {worker next : Worker.Shared K} (held : s.workers handle = some worker)
    (run : Worker.Run worker events next) (inner : ∀ event ∈ events, event.begins = false)
    (ends : Ends call (s.workerAt handle next) outcome) : Ends call s outcome := by
  induction run with
  | nil =>
    have same : s.workerAt handle worker = s := by
      rw [Shared.workerAt, ← held, Function.update_eq_self]
    exact same ▸ ends
  | @snoc events event before after run step ih =>
    refine ih (fun event member => inner event (by simp [member])) ?_
    refine .step (.work (Function.update_self _ _ _) step (inner event (by simp))) ⟨rfl, rfl⟩ ?_
    simpa using ends

/-- The stages of calls do not matter to a dispatcher at rest. -/
theorem Mirrors.stages (mirrors : Mirrors d s) (stages : Nat → Stage) :
    Mirrors d { s with stages := stages } :=
  ⟨mirrors.limits, mirrors.settings, mirrors.plan, mirrors.next, mirrors.default, mirrors.table,
    mirrors.lock, mirrors.workers⟩

theorem Mirrors.codec (mirrors : Mirrors d s) : s.codec = d.codec := by
  rw [Shared.codec, Dispatcher.codec, mirrors.settings]

/-- An engine leaves the table, and the default one with it if it was that. -/
theorem Mirrors.dismissed (mirrors : Mirrors d s) (handle : Nat) :
    Mirrors (d.dismissed handle) { s.without handle with
      default := if s.default = some handle then none else s.default } := by
  obtain ⟨limits, settings, plan, next, default, table, lock, workers⟩ := mirrors
  refine ⟨limits, settings, plan, next, ?_, ?_, lock, ?_⟩
  · simp only [default, Dispatcher.dismissed, remove]
  · show s.table.filter _ = (d.remove handle).activeHandles
    rw [table, activeHandles_remove]
  · intro entry member
    exact workers entry (List.mem_filter.mp member).1

/-- The worker of an engine that is not in the table may do what it wants. -/
theorem Mirrors.workerAt {worker : Worker.Shared K} (mirrors : Mirrors d s)
    (gone : handle ∉ d.activeHandles) : Mirrors d (s.workerAt handle worker) := by
  obtain ⟨limits, settings, plan, next, default, table, lock, workers⟩ := mirrors
  refine ⟨limits, settings, plan, next, default, table, lock, ?_⟩
  intro entry member
  have differs : entry.1 ≠ handle := by
    rintro rfl
    exact gone (List.mem_map_of_mem member)
  obtain ⟨worker, held, rests⟩ := workers entry member
  exact ⟨worker, by simpa [differs] using held, rests⟩

/-- The new state of a worker is that of its engine. -/
theorem Mirrors.update {worker : Worker.Shared K} {w : Worker K} (mirrors : Mirrors d s)
    (rests : Worker.Rests w worker) : Mirrors (d.update w) (s.workerAt w.handle worker) := by
  obtain ⟨limits, settings, plan, next, default, table, lock, workers⟩ := mirrors
  refine ⟨limits, settings, plan, next, default, ?_, lock, ?_⟩
  · rw [activeHandles_update]
    exact table
  · intro entry member
    simp only [Dispatcher.update, List.mem_map] at member
    obtain ⟨before, member, rfl⟩ := member
    by_cases same : before.1 = w.handle
    · rw [if_pos same]
      exact ⟨worker, by simp, rests⟩
    · rw [if_neg same]
      obtain ⟨kept, held, rests⟩ := workers before member
      exact ⟨kept, by simpa [same] using held, rests⟩

/-- An engine joins the table. -/
theorem Mirrors.joined {engine : K.Engine} {plan : K.Plan} (mirrors : Mirrors d s)
    (consistent : d.Consistent) : Mirrors (d.joined (.live d.next engine) plan)
      { s.workerAt s.next (.start engine) with
        plan := plan, next := s.next + 1, table := s.table ++ [s.next] } := by
  obtain ⟨limits, settings, -, next, default, table, lock, workers⟩ := mirrors
  refine ⟨limits, settings, rfl, congrArg (· + 1) next, default, ?_, lock, ?_⟩
  · rw [activeHandles_joined]
    exact congrArg₂ (· ++ [·]) table next
  · intro entry member
    rcases List.mem_append.mp member with member | member
    · have differs : entry.1 ≠ s.next := by
        have below := (consistent.active_below (List.mem_map_of_mem member)).2
        exact next ▸ Nat.ne_of_lt below
      obtain ⟨worker, held, rests⟩ := workers entry member
      exact ⟨worker, by simpa [differs] using held, rests⟩
    · rw [List.mem_singleton.mp member]
      exact ⟨.start engine, by simp [next], Worker.rests_start d.next engine⟩

/-- Whoever took an engine out of the table disposes of it. -/
theorem ends_removed {reason : Reason} {worker : Worker.Shared K} {w : Worker K}
    (mirrors : Mirrors d { s with
      default := if s.default = some handle then none else s.default })
    (gone : handle ∉ d.activeHandles) (stage : s.stages call = .removed handle reason)
    (held : s.workers handle = some worker) (rests : Worker.Rests w worker)
    (idle : worker.disposals call = .idle) :
    Ends call s (finalAnswer d.codec w.failed handle reason, d) := by
  obtain ⟨events, after, ⟨⟨next, first, rest⟩, inner⟩, back, -, settled⟩ :=
    Worker.solo_dispose rests idle
  have answer : finalAnswer s.codec after.failed handle reason =
      finalAnswer d.codec w.failed handle reason := by
    rw [settled.failed]
    exact congrArg (finalAnswer · w.failed handle reason) mirrors.codec
  refine .step (.clear stage mirrors.lock) ⟨rfl, rfl⟩ ?_
  refine .step (.letGo (Function.update_self _ _ _) held first) ⟨rfl, rfl⟩ ?_
  refine .work (Function.update_self _ _ _) rest inner ?_
  refine answer ▸ .now (.gone (Function.update_self _ _ _) (Function.update_self _ _ _) back) ?_
  exact ((mirrors.workerAt gone).workerAt gone).stages _

/-- A call whose command ended the engine takes it out of the table. -/
theorem ends_retiring {reason : Reason} {worker : Worker.Shared K} {w : Worker K}
    (mirrors : Mirrors (d.dismissed handle) { s.without handle with
      default := if s.default = some handle then none else s.default })
    (active : handle ∈ s.table) (stage : s.stages call = .retiring handle reason)
    (held : s.workers handle = some worker) (rests : Worker.Rests w worker)
    (idle : worker.disposals call = .idle) :
    Ends call s (finalAnswer d.codec w.failed handle reason, d.dismissed handle) := by
  refine .step (.retire stage active) ⟨rfl, rfl⟩ ?_
  exact ends_removed (mirrors.stages _) (not_active_dismissed handle) (Function.update_self _ _ _)
    held rests idle

/-- A call whose command is back from the worker, with the engine at an end or not. -/
theorem ends_running {command : Command} {engine : K.Engine} {result : Except EngineError Datum}
    {log : List Log.Record} {w : Worker K} {worker : Worker.Shared K}
    (ran : Worker.run command (.live handle engine) = (result, log, w)) (codec : s.codec = d.codec)
    (active : handle ∈ s.table) (stage : s.stages call = .running handle)
    (held : s.workers handle = some worker) (back : worker.runs call = .returned result)
    (idle : worker.disposals call = .idle) (rests : Worker.Rests w worker)
    (stays : ∀ final, w = .live handle final → Mirrors (d.update w) s)
    (leaves : Mirrors (d.dismissed handle) { s.without handle with
      default := if s.default = some handle then none else s.default }) :
    Ends call s (d.carried command (.live handle engine)) := by
  have answers (kept : fatal result = false) (alive : result ≠ .error .terminated) :
      Ends call s (reported d.codec result, d.update w) := by
    obtain ⟨reason, rfl⟩ | ⟨final, shape⟩ := Worker.run_live_next ran
    · cases kept
    · exact codec ▸ .now (.answer stage held back kept alive) ((stays final shape).stages _)
  have retires (reason : Reason) : Ends call (s.stageAt call (.retiring handle reason))
      (finalAnswer d.codec w.failed handle reason, d.dismissed handle) :=
    ends_retiring (leaves.stages _) active (Function.update_self _ _ _) held rests idle
  unfold carried
  rw [ran]
  rcases result with e | value
  · cases e with
    | fatal reason => exact .step (.fatal stage held back) ⟨rfl, rfl⟩ (retires (.fatal reason))
    | terminated =>
      obtain ⟨reason, ended⟩ | ⟨final, rfl⟩ := Worker.run_live_next ran
      · cases ended
      · exact .step (.unanswered stage held back) ⟨rfl, rfl⟩ (retires .unanswered)
    | exception thrown => exact answers rfl (by simp)
    | invalidArgument reason => exact answers rfl (by simp)
  · exact answers rfl (by simp)

/-- A command that has found its engine is `carried`. -/
theorem ends_found {command : Command} {engine : K.Engine} (mirrors : Mirrors d s)
    (member : (handle, .live handle engine) ∈ d.engines)
    (stage : s.stages call = .found handle command)
    (unknown : ∀ worker, s.workers handle = some worker →
      worker.runs call = .idle ∧ worker.disposals call = .idle) :
    Ends call s (d.carried command (.live handle engine)) := by
  obtain ⟨worker, held, rests⟩ := mirrors.workers _ member
  obtain ⟨idle, undisposed⟩ := unknown worker held
  obtain ⟨events, after, ⟨⟨next, first, rest⟩, inner⟩, back, disposals, settled⟩ :=
    Worker.solo_run rests idle command
  refine .step (.run stage held first) ⟨rfl, rfl⟩ (.work (Function.update_self _ _ _) rest inner ?_)
  have same : Shared.workerAt handle after
      ((s.workerAt handle next).stageAt call (.running handle)) =
        (s.workerAt handle after).stageAt call (.running handle) := by simp
  have active : handle ∈ s.table := by
    rw [mirrors.table]
    exact List.mem_map_of_mem member
  have codec : ((s.workerAt handle after).stageAt call (.running handle)).codec = d.codec :=
    mirrors.codec
  rcases ran : Worker.run command (.live handle engine) with ⟨result, log, w⟩
  rw [ran] at back settled
  rw [same]
  refine ends_running ran codec active (Function.update_self _ _ _) (Function.update_self _ _ _)
    back (disposals ▸ undisposed) settled ?_
    (((mirrors.dismissed handle).workerAt (not_active_dismissed handle)).stages _)
  rintro final rfl
  exact (mirrors.update settled).stages _

theorem Mirrors.unlocked (mirrors : Mirrors d s) : Mirrors d { s with lock := none } :=
  ⟨mirrors.limits, mirrors.settings, mirrors.plan, mirrors.next, mirrors.default, mirrors.table,
    rfl, mirrors.workers⟩

/-- The dispatcher just after an engine was made that is not in the table yet. -/
def Shared.withNew (call : Nat) (purpose : Purpose) (engine : K.Engine) (plan : K.Plan)
    (s : Shared K) : Shared K :=
  { (s.workerAt s.next (.start engine)).stageAt call (.made purpose s.next) with
    next := s.next + 1
    plan := plan }

/-- A call that makes an engine succeeds in it or not, as `made` does. -/
theorem ends_spawning {purpose : Purpose} {limits : EngineLimits}
    {outcome : Except DispatchError (List UInt8) × Dispatcher K}
    (mirrors : Mirrors d { s with lock := none })
    (lock : purpose = .create → s.lock = none) (stage : s.stages call = .spawning purpose limits)
    (failed : ∀ e plan, d.made limits = (.error e, d.attempted plan) →
      outcome = (.error e, d.attempted plan))
    (made : ∀ engine plan, d.made limits =
        (.ok (.live d.next engine), d.joined (.live d.next engine) plan) →
      Ends call (s.withNew call purpose engine plan) outcome) :
    Ends call s outcome := by
  obtain ⟨sameLimits, settings, samePlan, next, default, table, -, workers⟩ := mirrors
  have same : Worker.spawn s.next limits s.settings.workerStack s.plan =
      Worker.spawn d.next limits d.settings.workerStack d.plan := by congr
  refine .step (.number stage) ⟨rfl, rfl⟩ ?_
  rcases spawned : Worker.spawn d.next limits d.settings.workerStack d.plan with
    ⟨e | worker, log, plan⟩
  · rw [spawned] at same
    rw [failed (.ofEngine e) plan (by rw [Dispatcher.made, spawned])]
    refine .now (.unmade (Function.update_self _ _ _) same) ?_
    refine ⟨sameLimits, settings, rfl, congrArg (· + 1) next, default, table, ?_, workers⟩
    cases purpose with
    | create => exact lock rfl
    | default command => rfl
  · obtain ⟨engine, rfl⟩ := Worker.spawn_live spawned
    rw [spawned] at same
    refine .step (.make (Function.update_self _ _ _) same rfl) ⟨rfl, rfl⟩ ?_
    have ends := made engine plan (by rw [Dispatcher.made, spawned])
    rw [Shared.withNew] at ends
    simpa using ends

/-- An uninterrupted `createEngine`. -/
theorem ends_create {limits : EngineLimits} (consistent : d.Consistent) (mirrors : Mirrors d s)
    (stage : s.stages call = .spawning .create limits) :
    Ends call s (match d.made limits with
      | (.ok worker, after) =>
        (reported after.codec (.ok (.int (Int64.ofNat worker.handle))), after)
      | (.error e, after) => (.error e, after)) := by
  refine ends_spawning mirrors.unlocked (fun _ => mirrors.lock) stage ?_ ?_
  · intro e plan failed
    rw [failed]
  · intro engine plan made
    rw [made]
    have joined : Mirrors (d.joined (.live d.next engine) plan)
        { s.workerAt s.next (.start engine) with
          plan := plan, next := s.next + 1, table := s.table ++ [s.next] } :=
      mirrors.joined consistent
    have answer : reported s.codec (.ok (.int (Int64.ofNat s.next))) =
        reported (d.joined (.live d.next engine) plan).codec (.ok (.int (Int64.ofNat d.next))) := by
      rw [mirrors.codec, mirrors.next]
      rfl
    show Ends call _ (reported (d.joined (.live d.next engine) plan).codec
      (.ok (.int (Int64.ofNat d.next))), d.joined (.live d.next engine) plan)
    rw [← answer]
    refine .step (.insert (Function.update_self _ _ _)) ⟨rfl, rfl⟩ ?_
    exact .now (.tell (Function.update_self _ _ _)) (joined.stages _)

/-- An uninterrupted command without a handle that needs a new default engine. -/
theorem ends_default {command : Command} (consistent : d.Consistent)
    (mirrors : Mirrors d { s with lock := none })
    (stage : s.stages call = .spawning (.default command) d.limits) :
    Ends call s (match (match d.made d.limits with
        | (.ok worker, after) => (.ok worker, { after with default := some worker.handle })
        | failed => failed : Except DispatchError (Worker K) × Dispatcher K) with
      | (.ok worker, after) => after.carried command worker
      | (.error e, after) => (.error e, after)) := by
  refine ends_spawning mirrors (by simp) stage ?_ ?_
  · intro e plan failed
    rw [failed]
  · intro engine plan made
    have next : s.next = d.next := mirrors.next
    have joined : Mirrors (d.joined (.live d.next engine) plan)
        { ({ s with lock := none }).workerAt s.next (.start engine) with
          plan := plan, next := s.next + 1, table := s.table ++ [s.next] } :=
      mirrors.joined consistent
    have named : Mirrors { d.joined (.live d.next engine) plan with default := some d.next }
        { ({ s with lock := none }).workerAt s.next (.start engine) with
          plan := plan, next := s.next + 1, table := s.table ++ [s.next],
          default := some s.next } :=
      ⟨joined.limits, joined.settings, rfl, joined.next, congrArg some next, joined.table, rfl,
        joined.workers⟩
    have member : (s.next, Worker.live s.next engine) ∈
        (d.joined (.live d.next engine) plan).engines := by
      rw [next]
      simp [Dispatcher.joined]
    have carries : carried command (.live d.next engine)
        { d.joined (.live d.next engine) plan with default := some d.next } =
          carried command (.live s.next engine)
            { d.joined (.live d.next engine) plan with default := some d.next } := by
      rw [next]
    rw [made]
    show Ends call _ (carried command (.live d.next engine)
      { d.joined (.live d.next engine) plan with default := some d.next })
    rw [carries]
    refine .step (.insertDefault (Function.update_self _ _ _)) ⟨rfl, rfl⟩ ?_
    refine .step (.name (Function.update_self _ _ _)) ⟨rfl, rfl⟩ ?_
    refine .step (.named (Function.update_self _ _ _) (by simp)) ⟨rfl, rfl⟩ ?_
    refine ends_found (named.stages _) member (Function.update_self _ _ _) ?_
    intro worker held
    have held : Function.update s.workers s.next (some (.start engine)) s.next = some worker := held
    rw [Function.update_self] at held
    cases held
    exact ⟨rfl, rfl⟩

/-- An uninterrupted command. -/
theorem ends_command {command : Command} {op : Operation} (consistent : d.Consistent)
    (mirrors : Mirrors d s) (stage : s.stages call = .asked op)
    (unknown : ∀ handle worker, s.workers handle = some worker →
      worker.runs call = .idle ∧ worker.disposals call = .idle)
    (asked : admitted s.codec op = .ok (.command command)) :
    Ends call s (d.answered op.handle (.command command)) := by
  unfold answered resolved
  cases named : op.handle with
  | some handle =>
    cases found : d.worker? handle with
    | none =>
      have gone : handle ∉ s.table := by
        rw [mirrors.table]
        exact (worker?_eq_none_iff handle).mp found
      simp only [found]
      exact .now (.missing stage asked named gone) (mirrors.stages _)
    | some w =>
      obtain ⟨member, engine, rfl⟩ := worker?_live consistent found
      have active : handle ∈ s.table := by
        rw [mirrors.table]
        exact List.mem_map_of_mem member
      simp only [found]
      refine .step (.find stage asked named active) ⟨rfl, rfl⟩ ?_
      exact ends_found (mirrors.stages _) member (Function.update_self _ _ _) (unknown handle)
  | none =>
    cases on : d.settings.defaultEngine with
    | false =>
      have off : s.settings.defaultEngine = false := by rw [mirrors.settings, on]
      exact .now (.noDefault stage asked named off) (mirrors.stages _)
    | true =>
      have on' : s.settings.defaultEngine = true := by rw [mirrors.settings, on]
      refine .step (.choose stage asked named on' mirrors.lock) ⟨rfl, rfl⟩ ?_
      cases found : d.default.bind d.worker? with
      | some w =>
        obtain ⟨handle, set, known⟩ := Option.bind_eq_some_iff.mp found
        obtain ⟨member, engine, rfl⟩ := worker?_live consistent known
        have active : handle ∈ s.table := by
          rw [mirrors.table]
          exact List.mem_map_of_mem member
        refine .step (.chosen (Function.update_self _ _ _) (mirrors.default.trans set) active)
          ⟨rfl, rfl⟩ ?_
        exact ends_found (mirrors.unlocked.stages _) member (Function.update_self _ _ _)
          (unknown handle)
      | none =>
        have unset (handle : Nat) (set : s.default = some handle) : handle ∉ s.table := by
          rw [mirrors.default] at set
          rw [set] at found
          rw [mirrors.table]
          exact (worker?_eq_none_iff handle).mp found
        refine .step (.unchosen (Function.update_self _ _ _) unset) ⟨rfl, rfl⟩ ?_
        refine ends_default consistent (mirrors.unlocked.stages _) ?_
        rw [← mirrors.limits]
        exact Function.update_self _ _ _

theorem ends_asked {op : Operation} (consistent : d.Consistent) (mirrors : Mirrors d s)
    (stage : s.stages call = .asked op)
    (unknown : ∀ handle worker, s.workers handle = some worker →
      worker.runs call = .idle ∧ worker.disposals call = .idle) :
    Ends call s (d.respond op) := by
  unfold respond
  rw [← mirrors.codec]
  cases asked : admitted s.codec op with
  | error e => exact .now (.reject stage asked) (mirrors.stages _)
  | ok request =>
    cases request with
    | command command => exact ends_command consistent mirrors stage unknown asked
    | create options =>
      refine .step (.create stage asked) ⟨rfl, rfl⟩ (ends_create consistent (mirrors.stages _) ?_)
      rw [← mirrors.limits]
      exact Function.update_self _ _ _
    | dispose =>
      unfold answered
      cases named : op.handle with
      | none => exact .now (.disposeNothing stage asked named) (mirrors.stages _)
      | some handle =>
        cases found : d.worker? handle with
        | none =>
          have gone : handle ∉ s.table := by
            rw [mirrors.table]
            exact (worker?_eq_none_iff handle).mp found
          simp only [found]
          exact .now (.disposeMissing stage asked named gone) (mirrors.stages _)
        | some w =>
          obtain ⟨member, engine, rfl⟩ := worker?_live consistent found
          obtain ⟨worker, held, rests⟩ := mirrors.workers _ member
          have active : handle ∈ s.table := by
            rw [mirrors.table]
            exact List.mem_map_of_mem member
          have taken : ((s.without handle).stageAt call (.removed handle .asked)).stages call =
              .removed handle .asked := Function.update_self _ _ _
          simp only [found]
          refine .step (.dispose stage asked named active) ⟨rfl, rfl⟩ ?_
          exact ends_removed ((mirrors.dismissed handle).stages _) (not_active_dismissed handle)
            taken held rests (unknown handle worker held).2

/-- An operation that nothing interrupts is answered as `respond` says, and leaves the dispatcher
as it says. -/
theorem solo_dispatch (consistent : d.Consistent) (mirrors : Mirrors d s)
    (idle : s.stages call = .idle)
    (unknown : ∀ handle worker, s.workers handle = some worker →
      worker.runs call = .idle ∧ worker.disposals call = .idle) (op : Operation) :
    ∃ trace s', Run s trace s' ∧ dispatches trace = [(call, op)] ∧
      answers trace = [(call, (d.respond op).1)] ∧ Mirrors (d.respond op).2 s' := by
  obtain ⟨trace, s', run, begun, gave, after⟩ :=
    ends_asked consistent (mirrors.stages (Function.update s.stages call (.asked op)))
      (Function.update_self _ _ _) unknown
  refine ⟨_, s', (Run.nil.snoc (.dispatch op idle)).append run, ?_, ?_, after⟩
  · simpa [dispatches] using begun
  · simpa [answers, List.filterMap_cons] using gave

/-- The answers to operations dispatched one after another. -/
def answersTo : List Operation → Dispatcher K → List (Except DispatchError (List UInt8))
  | [], _ => []
  | op :: rest, d => ((dispatch op).run d).1 :: answersTo rest ((dispatch op).run d).2

theorem mirrors_unlogged : Mirrors d.unlogged s ↔ Mirrors d s :=
  ⟨fun m => ⟨m.1, m.2, m.3, m.4, m.5, m.6, m.7, m.8⟩,
    fun m => ⟨m.1, m.2, m.3, m.4, m.5, m.6, m.7, m.8⟩⟩

theorem mirrors_start (settings : Settings) (plan : K.Plan) :
    Mirrors (ofSettings settings plan : Dispatcher K) (.start settings plan) where
  limits := rfl
  settings := rfl
  plan := rfl
  next := rfl
  default := rfl
  table := rfl
  lock := rfl
  workers _ member := absurd member List.not_mem_nil

/-- A call that has not begun is known to no worker. -/
theorem Run.unknown {settings : Settings} {plan : K.Plan} (run : Run (.start settings plan) trace s)
    (fresh : call ∉ (dispatches trace).map Prod.fst) : s.stages call = .idle ∧
      ∀ handle worker, s.workers handle = some worker →
        worker.runs call = .idle ∧ worker.disposals call = .idle := by
  have idle := (run.placed.begun call).mpr fresh
  refine ⟨idle, fun handle worker held => ?_⟩
  have known := run.placed.places.known handle worker held
  exact ⟨not_not.mp (mt (known.called call) (by simp [idle])),
    not_not.mp (mt (known.parted call) (by simp [idle]))⟩

/-- Operations dispatched one after another are one of the ways in which they can take turns. -/
theorem Run.sequential {settings : Settings} {plan : K.Plan}
    (run : Run (.start settings plan) trace s) (mirrors : Mirrors d s) (consistent : d.Consistent)
    (ops : List Operation) (first : Nat)
    (fresh : ∀ call ∈ (dispatches trace).map Prod.fst, call < first) :
    ∃ more s', Run (.start settings plan) (trace ++ more) s' ∧
      dispatches more = (List.range' first ops.length).zip ops ∧
      answers more = (List.range' first ops.length).zip (d.answersTo ops) ∧
      Mirrors (d.after ops) s' := by
  induction ops generalizing d s trace first with
  | nil => exact ⟨[], s, by simpa using run, rfl, rfl, mirrors⟩
  | cons op rest ih =>
    obtain ⟨idle, unknown⟩ :=
      run.unknown fun member => absurd (fresh first member) (Nat.lt_irrefl _)
    obtain ⟨one, middle, alone, begun, gave, after⟩ := solo_dispatch
      (consistent_unlogged.mpr consistent) (mirrors_unlogged.mpr mirrors) idle unknown op
    rw [← effect_dispatch consistent op] at gave after
    have together : dispatches (trace ++ one) = dispatches trace ++ [(first, op)] := by
      rw [← begun, dispatches, List.filterMap_append]
      rfl
    have later : ∀ call ∈ (dispatches (trace ++ one)).map Prod.fst, call < first + 1 := by
      intro call member
      rw [together, List.map_append, List.mem_append] at member
      rcases member with earlier | own
      · exact Nat.lt_succ_of_lt (fresh call earlier)
      · simp_all
    obtain ⟨more, s', run, asked, answered, final⟩ := ih (run.append alone)
      (mirrors_unlogged.mp after) (dispatch_consistent consistent op) (first + 1) later
    refine ⟨one ++ more, s', by simpa using run, ?_, ?_, final⟩
    · rw [dispatches, List.filterMap_append]
      exact congrArg₂ (· ++ ·) begun asked
    · rw [answers, List.filterMap_append]
      exact congrArg₂ (· ++ ·) gave answered

/-- What a dispatcher does with operations one after another is what can be seen of it when they
are in progress one after another. -/
theorem run_of_after (settings : Settings) (plan : K.Plan) (ops : List Operation) :
    ∃ trace s, Run (.start settings plan) trace s ∧
      dispatches trace = (List.range ops.length).zip ops ∧
      answers trace = (List.range ops.length).zip
        ((ofSettings settings plan : Dispatcher K).answersTo ops) ∧
      Mirrors ((ofSettings settings plan).after ops) s := by
  obtain ⟨trace, s, run, asked, answered, mirrors⟩ := Run.nil.sequential
    (mirrors_start settings plan) (ofSettings_consistent settings plan) ops 0 (by simp [dispatches])
  rw [List.nil_append] at run
  rw [← List.range_eq_range'] at asked answered
  exact ⟨trace, s, run, asked, answered, mirrors⟩

end Dispatcher

end ScriptHost
