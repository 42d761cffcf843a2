import ScriptHost.Proofs.Dispatch.Step
import ScriptHost.Proofs.Worker.Linear

/-! A handle stands for one worker: it is taken by one call, it enters the table once and leaves
it once, and what happened to its worker is a run of that worker from the start. -/

namespace ScriptHost

variable {K : EngineKind}

/-- The handle for which a call is making an engine. -/
@[simp] def Stage.pending? : Stage → Option Nat
  | .making _ _ handle | .made _ handle => some handle
  | _ => none

/-- The handles that have left the table. -/
def removed (trace : List Sight) : List Nat := (removals trace).map Prod.snd

@[simp] theorem removed_snoc (trace : List Sight) (sight : Sight) :
    removed (trace ++ [sight]) = removed trace ++ (sight.removed?.map Prod.snd).toList := by
  cases sight <;> simp [removed]

namespace Dispatcher

/-- The engine was made for this handle. -/
def MadeFor (stack : UInt64) (handle : Nat) (engine : K.Engine) : Prop :=
  ∃ limits plan worker log after,
    Worker.spawn handle limits stack plan = (.ok worker, log, after) ∧ worker.engine = some engine

/-- What happened at each worker is a run of it, from the engine that was made for it. -/
structure Histories (trace : List Sight) (s : Shared K) : Prop where
  runs : ∀ handle worker, s.workers handle = some worker →
    ∃ engine : K.Engine, MadeFor s.settings.workerStack handle engine ∧
      Worker.Run (.start engine) (history trace handle) worker
  unmade : ∀ handle, s.workers handle = none → history trace handle = []

/-- Where the handles are that were taken. -/
structure Handles (trace : List Sight) (s : Shared K) : Prop where
  below : ∀ handle, (s.workers handle).isSome → handle < s.next
  pending : ∀ call handle, (s.stages call).pending? = some handle →
    handle < s.next ∧ handle ∉ s.table ∧ handle ∉ removed trace
  pending_once : ∀ call other handle, (s.stages call).pending? = some handle →
    (s.stages other).pending? = some handle → call = other
  unmade : ∀ call purpose limits handle, s.stages call = .making purpose limits handle →
    s.workers handle = none
  table : ∀ handle ∈ s.table, handle < s.next ∧ handle ∉ removed trace
  removed_below : ∀ handle ∈ removed trace, handle < s.next
  removed_once : (removed trace).Nodup

variable {trace : List Sight} {s s' : Shared K} {sight : Sight} {call handle : Nat}

theorem Histories.start (settings : Settings) (plan : K.Plan) :
    Histories [] (.start settings plan) where
  runs _ _ held := by cases held
  unmade _ _ := rfl

theorem Handles.start (settings : Settings) (plan : K.Plan) :
    Handles [] (.start settings plan) where
  below _ held := by cases held
  pending _ _ held := by cases held
  pending_once _ _ _ held := by cases held
  unmade _ _ _ _ held := by cases held
  table _ member := absurd member List.not_mem_nil
  removed_below _ member := absurd member List.not_mem_nil
  removed_once := .nil

theorem Histories.same (histories : Histories trace s) (settings : s'.settings = s.settings)
    (workers : s'.workers = s.workers)
    (seen : ∀ handle, history (trace ++ [sight]) handle = history trace handle) :
    Histories (trace ++ [sight]) s' := by
  constructor
  · intro handle worker held
    rw [seen, settings]
    exact histories.runs handle worker (workers ▸ held)
  · intro handle held
    rw [seen]
    exact histories.unmade handle (workers ▸ held)

/-- A step of a worker continues its run. -/
theorem Histories.worked {event : Event} {worker next : Worker.Shared K}
    (histories : Histories trace s) (held : s.workers handle = some worker)
    (step : Worker.Step worker event next) (settings : s'.settings = s.settings)
    (workers : s'.workers = Function.update s.workers handle (some next)) :
    Histories (trace ++ [.inside handle event]) s' := by
  constructor
  · intro other moved given
    rw [workers] at given
    rw [settings]
    by_cases same : other = handle
    · subst same
      obtain ⟨engine, made, run⟩ := histories.runs other worker held
      rw [Function.update_self, Option.some.injEq] at given
      subst given
      refine ⟨engine, made, ?_⟩
      simpa using run.snoc step
    · rw [Function.update_of_ne same] at given
      simpa [Ne.symm same] using histories.runs other moved given
  · intro other given
    rw [workers] at given
    by_cases same : other = handle
    · simp [same] at given
    · rw [Function.update_of_ne same] at given
      simpa [Ne.symm same] using histories.unmade other given

theorem Histories.step (histories : Histories trace s) (handles : Handles trace s)
    (step : Step s sight s') : Histories (trace ++ [sight]) s' := by
  cases step with
  | run stage held moved | letGo stage held moved => exact histories.worked held moved rfl rfl
  | work held moved _ => exact histories.worked held moved rfl rfl
  | @make call purpose limits handle worker engine log plan stage spawned held =>
    constructor
    · intro other moved given
      by_cases same : other = handle
      · subst same
        simp only [Shared.stageAt, Shared.workerAt, Function.update_self,
          Option.some.injEq] at given
        subst given
        refine ⟨engine, ⟨limits, s.plan, worker, log, plan, spawned, held⟩, ?_⟩
        have untouched := histories.unmade other (handles.unmade call purpose limits other stage)
        simpa [untouched] using Worker.Run.nil
      · simp only [Shared.stageAt, Shared.workerAt, Function.update_of_ne same] at given
        simpa using histories.runs other moved given
    · intro other given
      by_cases same : other = handle
      · simp [same] at given
      · simp only [Shared.stageAt, Shared.workerAt, Function.update_of_ne same] at given
        simpa using histories.unmade other given
  | _ => exact histories.same rfl rfl fun handle => by simp

/-- Steps that take no handle, make no engine and leave the table alone. -/
theorem Handles.same (handles : Handles trace s) (next : s'.next = s.next)
    (table : s'.table = s.table) (removed : removed (trace ++ [sight]) = removed trace)
    (workers : ∀ handle, (s'.workers handle).isSome = (s.workers handle).isSome)
    (stages : ∀ call, s'.stages call = s.stages call ∨ (s'.stages call).pending? = none) :
    Handles (trace ++ [sight]) s' := by
  have kept {call handle : Nat} (held : (s'.stages call).pending? = some handle) :
      (s.stages call).pending? = some handle := by
    rcases stages call with same | none
    · rwa [same] at held
    · rw [none] at held
      cases held
  refine ⟨?_, ?_, ?_, ?_, ?_, ?_, ?_⟩
  · intro handle made
    rw [workers] at made
    rw [next]
    exact handles.below handle made
  · intro call handle held
    rw [next, table, removed]
    exact handles.pending call handle (kept held)
  · intro call other handle one two
    exact handles.pending_once call other handle (kept one) (kept two)
  · intro call purpose limits handle held
    rcases stages call with same | none
    · have unmade := handles.unmade call purpose limits handle (same ▸ held)
      simpa [unmade] using workers handle
    · rw [held] at none
      cases none
  · rw [next, table, removed]
    exact handles.table
  · rw [next, removed]
    exact handles.removed_below
  · rw [removed]
    exact handles.removed_once

theorem stages_update {stage : Stage} (idle : stage.pending? = none) (other : Nat) :
    Function.update s.stages call stage other = s.stages other ∨
      (Function.update s.stages call stage other).pending? = none := by
  by_cases same : other = call
  · rw [same, Function.update_self]
    exact .inr idle
  · exact .inl (Function.update_of_ne same _ _)

theorem workers_update {worker next : Worker.Shared K} (held : s.workers handle = some worker)
    (other : Nat) :
    (Function.update s.workers handle (some next) other).isSome = (s.workers other).isSome := by
  by_cases same : other = handle
  · simp [same, held]
  · rw [Function.update_of_ne same]

theorem pending_update {stage : Stage} (idle : stage.pending? = none) {other : Nat}
    (held : (Function.update s.stages call stage other).pending? = some handle) :
    (s.stages other).pending? = some handle := by
  rcases stages_update idle other with same | none
  · rwa [same] at held
  · rw [none] at held
    cases held

/-- A handle leaves the table. It was in there, so no call is about to put it there. -/
theorem Handles.remove {stage : Stage} (handles : Handles trace s) (held : handle ∈ s.table)
    (idle : stage.pending? = none) : Handles (trace ++ [.removed call handle])
      ((s.without handle).stageAt call stage) := by
  obtain ⟨below, fresh⟩ := handles.table handle held
  refine ⟨handles.below, ?_, ?_, ?_, ?_, ?_, ?_⟩
  · intro other given waits
    obtain ⟨small, absent, kept⟩ := handles.pending other given (pending_update idle waits)
    have differs : given ≠ handle := fun same => absent (same ▸ held)
    exact ⟨small, fun member => absent (List.mem_filter.mp member).1, by simp [kept, differs]⟩
  · intro one two given first second
    exact handles.pending_once one two given (pending_update idle first)
      (pending_update idle second)
  · intro other purpose limits given waits
    rcases stages_update idle other with same | none
    · exact handles.unmade other purpose limits given (same ▸ waits)
    · have waits : Function.update s.stages call stage other = .making purpose limits given := waits
      rw [waits] at none
      cases none
  · intro given member
    obtain ⟨member, differs⟩ := List.mem_filter.mp member
    obtain ⟨small, kept⟩ := handles.table given member
    exact ⟨small, by simpa [kept] using differs⟩
  · intro given member
    rw [removed_snoc, List.mem_append] at member
    rcases member with member | member
    · exact handles.removed_below given member
    · rw [show given = handle by simpa using member]
      exact below
  · rw [removed_snoc]
    refine List.nodup_append.mpr ⟨handles.removed_once, by simp, ?_⟩
    intro given member other single same
    rw [show other = handle by simpa using single] at same
    exact fresh (same ▸ member)

/-- A call takes the next handle, which nobody took before. -/
theorem Handles.number {purpose : Purpose} {limits : EngineLimits} (handles : Handles trace s) :
    Handles (trace ++ [.quiet])
      { s.stageAt call (.making purpose limits s.next) with next := s.next + 1 } := by
  have later {handle : Nat} (below : handle < s.next) : handle < s.next + 1 :=
    Nat.lt_succ_of_lt below
  have unmade : s.workers s.next = none := by
    cases made : s.workers s.next with
    | none => rfl
    | some worker => exact absurd (handles.below s.next (by simp [made])) (Nat.lt_irrefl _)
  have unpending (other : Nat) : (s.stages other).pending? ≠ some s.next :=
    fun held => absurd (handles.pending other s.next held).1 (Nat.lt_irrefl _)
  refine ⟨fun handle made => later (handles.below handle made), ?_, ?_, ?_, ?_, ?_, ?_⟩
  · intro other handle held
    by_cases same : other = call
    · have own : handle = s.next := by simpa [same, eq_comm] using held
      subst own
      refine ⟨Nat.lt_succ_self _, fun member => ?_, fun member => ?_⟩
      · exact absurd (handles.table _ member).1 (Nat.lt_irrefl _)
      · exact absurd (handles.removed_below _ (by simpa using member)) (Nat.lt_irrefl _)
    · have held : (s.stages other).pending? = some handle := by simpa [same] using held
      obtain ⟨small, absent, kept⟩ := handles.pending other handle held
      exact ⟨later small, absent, by simpa using kept⟩
  · intro one two handle first second
    by_cases own : one = call <;> by_cases other : two = call
    · rw [own, other]
    · have taken : handle = s.next := by simpa [own, eq_comm] using first
      have second : (s.stages two).pending? = some handle := by simpa [other] using second
      exact absurd (taken ▸ second) (unpending two)
    · have taken : handle = s.next := by simpa [other, eq_comm] using second
      have first : (s.stages one).pending? = some handle := by simpa [own] using first
      exact absurd (taken ▸ first) (unpending one)
    · exact handles.pending_once one two handle (by simpa [own] using first)
        (by simpa [other] using second)
  · intro other purpose limits handle held
    by_cases same : other = call
    · have own : s.next = handle := by
        simp [same] at held
        exact held.2.2
      exact own ▸ unmade
    · exact handles.unmade other purpose limits handle (by simpa [same] using held)
  · intro handle member
    obtain ⟨small, kept⟩ := handles.table handle member
    exact ⟨later small, by simpa using kept⟩
  · intro handle member
    exact later (handles.removed_below handle (by simpa using member))
  · simpa using handles.removed_once

/-- The engine of a handle is made by the call that took the handle. -/
theorem Handles.make {purpose : Purpose} {limits : EngineLimits} {engine : K.Engine}
    {plan : K.Plan} (handles : Handles trace s)
    (stage : s.stages call = .making purpose limits handle) :
    Handles (trace ++ [.quiet])
      { (s.workerAt handle (.start engine)).stageAt call (.made purpose handle) with
        plan := plan } := by
  have own : (s.stages call).pending? = some handle := by rw [stage]; rfl
  have waiting {other given : Nat}
      (held : (Function.update s.stages call (.made purpose handle) other).pending? = some given) :
      (s.stages other).pending? = some given := by
    by_cases same : other = call
    · have taken : handle = given := by simpa [same] using held
      rw [same, own, taken]
    · simpa [same] using held
  refine ⟨?_, ?_, ?_, ?_, ?_, ?_, ?_⟩
  · intro given made
    by_cases same : given = handle
    · exact same ▸ (handles.pending call handle own).1
    · exact handles.below given (by simpa [same] using made)
  · intro other given held
    simpa using handles.pending other given (waiting held)
  · intro one two given first second
    exact handles.pending_once one two given (waiting first) (waiting second)
  · intro other purpose limits given held
    by_cases same : other = call
    · simp [same] at held
    · have waits : s.stages other = .making purpose limits given := by simpa [same] using held
      have differs : given ≠ handle := by
        rintro rfl
        exact same (handles.pending_once other call given (by rw [waits]; rfl) own)
      simpa [differs] using handles.unmade other purpose limits given waits
  · simpa using handles.table
  · simpa using handles.removed_below
  · simpa using handles.removed_once

/-- The handle of a new engine enters the table; no other call has it. -/
theorem Handles.insert {purpose : Purpose} {stage : Stage} (handles : Handles trace s)
    (made : s.stages call = .made purpose handle) (idle : stage.pending? = none) :
    Handles (trace ++ [.quiet]) { s.stageAt call stage with table := s.table ++ [handle] } := by
  have own : (s.stages call).pending? = some handle := by rw [made]; rfl
  obtain ⟨small, absent, kept⟩ := handles.pending call handle own
  refine ⟨handles.below, ?_, ?_, ?_, ?_, ?_, ?_⟩
  · intro other given held
    have waits := pending_update idle held
    obtain ⟨small, absent, kept⟩ := handles.pending other given waits
    have differs : given ≠ handle := by
      rintro rfl
      have same := handles.pending_once other call given waits own
      have moved : (Function.update s.stages call stage other).pending? = some given := held
      rw [same, Function.update_self, idle] at moved
      cases moved
    exact ⟨small, by simp [absent, differs], by simpa using kept⟩
  · intro one two given first second
    exact handles.pending_once one two given (pending_update idle first)
      (pending_update idle second)
  · intro other purpose limits given held
    rcases stages_update idle other with same | none
    · exact handles.unmade other purpose limits given (same ▸ held)
    · have held : Function.update s.stages call stage other = .making purpose limits given := held
      rw [held] at none
      cases none
  · intro given member
    rcases List.mem_append.mp member with member | member
    · simpa using handles.table given member
    · rw [List.mem_singleton.mp member]
      exact ⟨small, by simpa using kept⟩
  · simpa using handles.removed_below
  · simpa using handles.removed_once

theorem Handles.step (handles : Handles trace s) (step : Step s sight s') :
    Handles (trace ++ [sight]) s' := by
  cases step with
  | dispose stage asked named held => exact handles.remove held rfl
  | retire stage held => exact handles.remove held rfl
  | number stage => exact handles.number
  | make stage spawned held => exact handles.make stage
  | insert stage | insertDefault stage => exact handles.insert stage rfl
  | run stage held moved | letGo stage held moved =>
    exact handles.same rfl rfl (by simp) (workers_update held) (stages_update rfl)
  | work held moved =>
    exact handles.same rfl rfl (by simp) (workers_update held) fun _ => .inl rfl
  | _ => exact handles.same rfl rfl (by simp) (fun _ => rfl) (stages_update rfl)

end Dispatcher

end ScriptHost
