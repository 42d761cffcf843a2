import ScriptHost.Proofs.Dispatch.Places

/-! Operations come to an end: as long as one is under way a step can be taken, and every step
leaves less to be done. -/

namespace ScriptHost

variable {K : EngineKind}

namespace Stage

/-- How many steps are left at most, those for a new engine counted as so many. -/
def rank (fresh : Nat) : Stage → Nat
  | idle => 14 + fresh
  | asked _ => 13 + fresh
  | choosing _ => 12 + fresh
  | spawning .. => 11 + fresh
  | making .. => 10 + fresh
  | made .. => 9
  | naming .. => 8
  | named .. => 7
  | found .. => 6
  | running _ => 5
  | retiring .. => 4
  | removed .. => 3
  | cleared .. => 2
  | disposing .. | created _ => 1
  | returned => 0

theorem busy_of_holds {stage : Stage} (holds : stage.holds = true) : stage.busy = true := by
  cases stage <;> first | rfl | simp at holds

end Stage

namespace Dispatcher

/-- A step can be taken that is not the beginning of an operation. -/
def Moves (s : Shared K) : Prop := ∃ sight s', Step s sight s' ∧ sight.dispatched? = none

variable {trace : List Sight} {s s' : Shared K} {sight : Sight} {call handle : Nat}

/-- An operation that was asked for can begin, unless it waits for the lock. -/
theorem moves_asked {op : Operation} (free : s.lock = none) (stage : s.stages call = .asked op) :
    Moves s := by
  cases asked : admitted s.codec op with
  | error e => exact ⟨_, _, .reject stage asked, rfl⟩
  | ok request =>
    cases request with
    | create options => exact ⟨_, _, .create stage asked, rfl⟩
    | dispose =>
      cases named : op.handle with
      | none => exact ⟨_, _, .disposeNothing stage asked named, rfl⟩
      | some handle =>
        by_cases active : handle ∈ s.table
        · exact ⟨_, _, .dispose stage asked named active, rfl⟩
        · exact ⟨_, _, .disposeMissing stage asked named active, rfl⟩
    | command command =>
      cases named : op.handle with
      | none =>
        cases on : s.settings.defaultEngine with
        | false => exact ⟨_, _, .noDefault stage asked named on, rfl⟩
        | true => exact ⟨_, _, .choose stage asked named on free, rfl⟩
      | some handle =>
        by_cases active : handle ∈ s.table
        · exact ⟨_, _, .find stage asked named active, rfl⟩
        · exact ⟨_, _, .missing stage asked named active, rfl⟩

theorem moves_choosing {command : Command} (stage : s.stages call = .choosing command) :
    Moves s := by
  by_cases set : ∃ handle, s.default = some handle ∧ handle ∈ s.table
  · obtain ⟨handle, set, active⟩ := set
    exact ⟨_, _, .chosen stage set active, rfl⟩
  · refine ⟨_, _, .unchosen stage fun handle held active => set ⟨handle, held, active⟩, rfl⟩

/-- An engine is made or not. -/
theorem moves_making {purpose : Purpose} {limits : EngineLimits}
    (stage : s.stages call = .making purpose limits handle) : Moves s := by
  rcases spawned : Worker.spawn handle limits s.settings.workerStack s.plan with ⟨made, log, plan⟩
  cases made with
  | error e => exact ⟨_, _, .unmade stage spawned, rfl⟩
  | ok worker =>
    obtain ⟨engine, rfl⟩ := Worker.spawn_live spawned
    exact ⟨_, _, .make stage spawned rfl, rfl⟩

theorem moves_running (histories : Histories trace s) (places : Places s)
    (stage : s.stages call = .running handle) : Moves s := by
  obtain ⟨worker, held⟩ := Option.isSome_iff_exists.mp
    (places.engine call handle (by rw [stage]; rfl))
  obtain ⟨engine, -, run⟩ := histories.runs handle worker held
  obtain ⟨locks, awaits⟩ := run.awaits
  have begun := (places.known handle worker held).running call stage
  cases place : worker.runs call with
  | idle => exact absurd place begun
  | returned result =>
    cases result with
    | ok value => exact ⟨_, _, .answer stage held place rfl (by simp), rfl⟩
    | error e =>
      cases e with
      | fatal message => exact ⟨_, _, .fatal stage held place, rfl⟩
      | terminated => exact ⟨_, _, .unanswered stage held place, rfl⟩
      | exception thrown => exact ⟨_, _, .answer stage held place rfl (by simp), rfl⟩
      | invalidArgument reason => exact ⟨_, _, .answer stage held place rfl (by simp), rfl⟩
  | entered | looking | sending | waiting =>
    obtain ⟨event, next, moved, inner⟩ := awaits.moves locks (.inl (by rw [place]; rfl))
    exact ⟨_, _, .work held moved inner, rfl⟩

theorem moves_disposing {reason : Reason} (histories : Histories trace s) (places : Places s)
    (stage : s.stages call = .disposing handle reason) : Moves s := by
  obtain ⟨worker, held⟩ := Option.isSome_iff_exists.mp
    (places.engine call handle (by rw [stage]; rfl))
  obtain ⟨engine, -, run⟩ := histories.runs handle worker held
  obtain ⟨locks, awaits⟩ := run.awaits
  have begun := (places.known handle worker held).disposing call reason stage
  cases place : worker.disposals call with
  | idle => exact absurd place begun
  | returned => exact ⟨_, _, .gone stage held place, rfl⟩
  | entered | looking | sending | waiting | leaving | reaching | joining =>
    obtain ⟨event, next, moved, inner⟩ := awaits.moves locks (.inr (by rw [place]; rfl))
    exact ⟨_, _, .work held moved inner, rfl⟩

/-- A call that is under way can go on, or its worker can, unless it waits for the lock. -/
theorem Places.moves_of (histories : Histories trace s) (places : Places s)
    (busy : (s.stages call).busy = true) (free : s.lock = none ∨ (s.stages call).holds = true) :
    Moves s := by
  cases stage : s.stages call with
  | asked op => exact moves_asked (free.resolve_right (by simp [stage])) stage
  | choosing command => exact moves_choosing stage
  | spawning purpose limits => exact ⟨_, _, .number stage, rfl⟩
  | making purpose limits handle => exact moves_making stage
  | made purpose handle =>
    cases purpose with
    | create => exact ⟨_, _, .insert stage, rfl⟩
    | default command => exact ⟨_, _, .insertDefault stage, rfl⟩
  | created handle => exact ⟨_, _, .tell stage, rfl⟩
  | naming handle command => exact ⟨_, _, .name stage, rfl⟩
  | named handle command =>
    by_cases active : handle ∈ s.table
    · exact ⟨_, _, .named stage active, rfl⟩
    · exact ⟨_, _, .unnamed stage active, rfl⟩
  | found handle command =>
    obtain ⟨worker, held⟩ := Option.isSome_iff_exists.mp
      (places.engine call handle (by rw [stage]; rfl))
    have unknown := mt ((places.known handle worker held).called call) (by simp [stage])
    exact ⟨_, _, .run stage held (.call command (not_not.mp unknown)), rfl⟩
  | running handle => exact moves_running histories places stage
  | retiring handle reason =>
    by_cases active : handle ∈ s.table
    · exact ⟨_, _, .retire stage active, rfl⟩
    · exact ⟨_, _, .retired stage active, rfl⟩
  | removed handle reason =>
    exact ⟨_, _, .clear stage (free.resolve_right (by simp [stage])), rfl⟩
  | cleared handle reason =>
    obtain ⟨worker, held⟩ := Option.isSome_iff_exists.mp
      (places.engine call handle (by rw [stage]; rfl))
    have unknown := mt ((places.known handle worker held).parted call) (by simp [stage])
    exact ⟨_, _, .letGo stage held (.dispose (not_not.mp unknown)), rfl⟩
  | disposing handle reason => exact moves_disposing histories places stage
  | idle | returned => simp [stage] at busy

/-- As long as an operation is under way, a step can be taken: whoever has the lock on the
default handle can go on. -/
theorem Places.moves (histories : Histories trace s) (places : Places s)
    (busy : (s.stages call).busy = true) : Moves s := by
  cases held : s.lock with
  | none => exact places.moves_of histories busy (.inl held)
  | some holder =>
    have holds := (places.lock holder).mpr held
    exact places.moves_of histories (Stage.busy_of_holds holds) (.inr holds)

/-- How many steps a worker may still take. -/
def restAt (callers : Finset Nat) : Option (Worker.Shared K) → Nat
  | some worker => worker.rest callers
  | none => 0

/-- How many steps are left at most, if there are no calls but these. -/
def Shared.rest (callers : Finset Nat) (s : Shared K) : Nat :=
  ∑ x ∈ callers, (s.stages x).rank (21 * callers.card + 4) +
    ∑ x ∈ Finset.range s.next, restAt callers (s.workers x)

theorem rest_start (callers : Finset Nat) (settings : Settings) (plan : K.Plan) :
    (Shared.start settings plan : Shared K).rest callers =
      callers.card * (21 * callers.card + 18) := by
  have idle : ∑ x ∈ callers, ((Shared.start settings plan : Shared K).stages x).rank
      (21 * callers.card + 4) = callers.card * (14 + (21 * callers.card + 4)) :=
    Finset.sum_const_nat fun _ _ => rfl
  have unmade : ∑ x ∈ Finset.range (Shared.start settings plan : Shared K).next,
      restAt callers ((Shared.start settings plan : Shared K).workers x) = 0 :=
    Finset.sum_eq_zero fun _ _ => rfl
  rw [Shared.rest, idle, unmade]
  ring

variable {callers : Finset Nat} {before stage : Stage}

theorem stages_lower (member : call ∈ callers) (held : s.stages call = before) {k : Nat}
    (lower : stage.rank (21 * callers.card + 4) + k ≤ before.rank (21 * callers.card + 4)) :
    ∑ x ∈ callers, (Function.update s.stages call stage x).rank (21 * callers.card + 4) + k ≤
      ∑ x ∈ callers, (s.stages x).rank (21 * callers.card + 4) := by
  have moved := @sum_update _ (Stage.rank (21 * callers.card + 4)) s.stages stage _ _ member
  rw [held] at moved
  omega

/-- A call moves on and leaves the workers alone. -/
theorem rest_moved (stages : s'.stages = Function.update s.stages call stage)
    (workers : s'.workers = s.workers) (next : s'.next = s.next) (member : call ∈ callers)
    (held : s.stages call = before)
    (lower : stage.rank (21 * callers.card + 4) + 1 ≤ before.rank (21 * callers.card + 4)) :
    s'.rest callers < s.rest callers := by
  have moved := stages_lower member held lower
  rw [Shared.rest, Shared.rest, stages, workers, next]
  omega

/-- A worker takes a step, and maybe a call with it. -/
theorem rest_worked {worker next : Worker.Shared K} {event : Event} (handles : Handles trace s)
    (held : s.workers handle = some worker) (step : Worker.Step worker event next)
    (known : Known s.stages handle worker)
    (members : ∀ other, s.stages other ≠ .idle → other ∈ callers)
    (beginners : ∀ other, event.beginner? = some other → other ∈ callers)
    (workers : s'.workers = Function.update s.workers handle (some next)) (below : s'.next = s.next)
    (stages : ∑ x ∈ callers, (s'.stages x).rank (21 * callers.card + 4) ≤
      ∑ x ∈ callers, (s.stages x).rank (21 * callers.card + 4)) :
    s'.rest callers < s.rest callers := by
  have small : handle ∈ Finset.range s.next :=
    Finset.mem_range.mpr (handles.below handle (by simp [held]))
  have moved := @sum_update _ (restAt callers) s.workers (some next) _ _ small
  have lower : next.rest callers < worker.rest callers := by
    refine step.rest_lt (fun other begun => members other ?_) (fun other begun => members other ?_)
      beginners
    · intro idle
      simpa [idle] using known.called other begun
    · intro idle
      simpa [idle] using known.parted other begun
  rw [held] at moved
  change _ + worker.rest callers = _ + next.rest callers at moved
  rw [Shared.rest, Shared.rest, workers, below]
  omega

/-- A handle is taken; there is no worker yet that has it. -/
theorem rest_number {purpose : Purpose} {limits : EngineLimits} (handles : Handles trace s)
    (stage : s.stages call = .spawning purpose limits) (member : call ∈ callers) :
    Shared.rest callers
      { s.stageAt call (.making purpose limits s.next) with next := s.next + 1 } <
        s.rest callers := by
  have unmade : s.workers s.next = none := by
    cases made : s.workers s.next with
    | none => rfl
    | some worker => exact absurd (handles.below s.next (by simp [made])) (Nat.lt_irrefl _)
  have moved := @sum_update _ (Stage.rank (21 * callers.card + 4)) s.stages
    (.making purpose limits s.next) _ _ member
  rw [stage] at moved
  change _ + (11 + (21 * callers.card + 4)) = _ + (10 + (21 * callers.card + 4)) at moved
  have nothing : restAt callers (s.workers s.next) = 0 := by rw [unmade]; rfl
  simp only [Shared.rest, Shared.stageAt, Finset.sum_range_succ, nothing]
  omega

/-- An engine is made: what its worker may have to do was counted before. -/
theorem rest_make {purpose : Purpose} {limits : EngineLimits} {engine : K.Engine} {plan : K.Plan}
    (handles : Handles trace s) (stage : s.stages call = .making purpose limits handle)
    (member : call ∈ callers) :
    Shared.rest callers
      { (s.workerAt handle (.start engine)).stageAt call (.made purpose handle) with
        plan := plan } <
        s.rest callers := by
  have unmade := handles.unmade call purpose limits handle stage
  have small : handle ∈ Finset.range s.next :=
    Finset.mem_range.mpr (handles.pending call handle (by rw [stage]; rfl)).1
  have moved := @sum_update _ (Stage.rank (21 * callers.card + 4)) s.stages (.made purpose handle)
    _ _ member
  have joined := @sum_update _ (restAt callers) s.workers (some (.start engine)) _ _ small
  have fresh : restAt callers (some (.start engine)) = 21 * callers.card + 4 :=
    Worker.rest_start callers engine
  rw [stage] at moved
  change _ + (10 + (21 * callers.card + 4)) = _ + 9 at moved
  rw [unmade, fresh] at joined
  change _ + 0 = _ at joined
  simp only [Shared.rest, Shared.stageAt, Shared.workerAt]
  omega

/-- Every step leaves less to be done. -/
theorem Step.rest_lt (handles : Handles trace s) (places : Places s) (step : Step s sight s')
    (members : ∀ other, s.stages other ≠ .idle → other ∈ callers)
    (beginners : ∀ op, sight.dispatched? = some op → op.1 ∈ callers) :
    s'.rest callers < s.rest callers := by
  have member {call : Nat} {stage : Stage} (held : s.stages call = stage) (busy : stage ≠ .idle) :
      call ∈ callers := members call (held ▸ busy)
  cases step with
  | dispatch op stage =>
    exact rest_moved rfl rfl rfl (beginners _ rfl) stage (by simp +arith [Stage.rank])
  | number stage => exact rest_number handles stage (member stage (by simp))
  | make stage => exact rest_make handles stage (member stage (by simp))
  | @run call handle command worker next stage held moved =>
    have within := member stage (by simp)
    exact rest_worked handles held moved (places.known handle worker held) members
      (by simp [within]) rfl rfl (stages_lower within stage (k := 0) (by simp [Stage.rank]))
  | @letGo call handle reason worker next stage held moved =>
    have within := member stage (by simp)
    exact rest_worked handles held moved (places.known handle worker held) members
      (by simp [within]) rfl rfl (stages_lower within stage (k := 0) (by simp [Stage.rank]))
  | @work handle event worker next held moved inner =>
    refine rest_worked handles held moved (places.known handle worker held) members ?_ rfl rfl
      (Nat.le_refl _)
    intro other begins
    cases event <;> simp_all [Event.begins]
  | _ stage =>
    exact rest_moved rfl rfl rfl (member stage (by simp)) stage (by simp +arith [Stage.rank])

/-- A call begins when it is said to. -/
theorem Step.stages_idle (step : Step s sight s') (other : Nat) :
    s'.stages other = .idle ↔ s.stages other = .idle ∧ ∀ op, sight ≠ .dispatched other op := by
  cases step with
  | @dispatch call op stage =>
    by_cases same : other = call
    · simp [same]
    · simp [same, Ne.symm same]
  | work => simp
  | _ stage =>
    simp only [Shared.stageAt, Function.update_apply]
    split <;> simp_all

/-- A call comes back when it is said to. -/
theorem Step.stages_returned (step : Step s sight s') (other : Nat) :
    s'.stages other = .returned ↔
      s.stages other = .returned ∨ ∃ answer, sight = .answered other answer := by
  cases step with
  | work => simp
  | dispatch op stage =>
    simp only [Shared.stageAt, Function.update_apply]
    split <;> simp_all
  | _ stage =>
    simp only [Shared.stageAt, Function.update_apply]
    split <;> rename_i same
    · simp [same, stage]
    · simp [Ne.symm same]

/-- A call that is answered was under way. -/
theorem Step.busy_of_answered {answer : Except DispatchError (List UInt8)}
    (step : Step s (.answered call answer) s') : (s.stages call).busy = true := by
  cases step with
  | _ stage => rw [stage]; rfl

/-- Where everything is that calls go to, and which calls have begun. -/
structure Placed (trace : List Sight) (s : Shared K) : Prop where
  handles : Handles trace s
  places : Places s
  begun : ∀ call, s.stages call = .idle ↔ call ∉ (dispatches trace).map Prod.fst

theorem Run.placed {settings : Settings} {plan : K.Plan}
    (run : Run (.start settings plan) trace s) : Placed trace s := by
  induction run with
  | nil => exact ⟨.start settings plan, .start settings plan, by simp [Shared.start, dispatches]⟩
  | @snoc trace sight s s' run step ih =>
    refine ⟨ih.handles.step step, ih.places.step ih.handles step, fun call => ?_⟩
    rw [step.stages_idle, ih.begun]
    cases sight <;> simp [eq_comm]

end Dispatcher

end ScriptHost
