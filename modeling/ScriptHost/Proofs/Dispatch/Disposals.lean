import ScriptHost.Proofs.Dispatch.Step
import ScriptHost.Proofs.Dispatch.Tables

/-! What the stage of an operation says about what happened to it so far, and what its answer
says once it has come. Only who took an engine out of the table disposes of its worker. So a command that
comes back without an answer while its engine is in the table met a worker that has failed. -/

namespace ScriptHost

variable {K : EngineKind}

/-- Whose progress a sight belongs to. -/
def Sight.call? : Sight → Option Nat
  | .dispatched call _ | .found call _ | .answered call _ => some call
  | .inside _ (.called call _) => some call
  | _ => none

namespace Dispatcher

section

variable (codec : Codec) (trace : List Sight) (call : Nat)

/-- A call that was not answered yet. -/
def Unanswered : Prop := call ∉ (answers trace).map Prod.fst

/-- A call whose command was given to no worker. -/
def Uncalled : Prop := ∀ handle, call ∉ (calls (history trace handle)).map Prod.fst

/-- A call that is not answered and for which no engine was found. -/
def Unheard : Prop :=
  Unanswered trace call ∧ call ∉ (finds trace).map Prod.fst ∧ Uncalled trace call

/-- What the call asks for. -/
def Asks (handle : Option Nat) (request : Request) : Prop :=
  ∃ op, (call, op) ∈ dispatches trace ∧ admitted codec op = .ok request ∧ op.handle = handle

def AsksFor : Purpose → Prop
  | .create => ∃ handle options, Asks codec trace call handle (.create options)
  | .default command => Asks codec trace call none (.command command)

/-- The call is one for this command on this engine and no other. -/
def Seeks (handle : Nat) (command : Command) : Prop :=
  (Asks codec trace call (some handle) (.command command) ∨
    Asks codec trace call none (.command command)) ∧
  ∀ other, (call, other) ∈ finds trace → other = handle

/-- A call whose command was given to no other worker than this one. -/
def OnlyAt (handle : Nat) : Prop :=
  ∀ other, call ∈ (calls (history trace other)).map Prod.fst → other = handle

/-- The command was given to the worker of its engine. -/
def Ran (handle : Nat) (command : Command) : Prop :=
  Seeks codec trace call handle command ∧ (call, command) ∈ calls (history trace handle) ∧
    OnlyAt trace call handle

/-- Why a call wants the engine to go. -/
def Cause (handle : Nat) : Reason → Prop
  | .asked => Asks codec trace call (some handle) .dispose
  | .fatal message =>
    (∃ command, Ran codec trace call handle command) ∧
      (call, .error (.fatal message)) ∈ returns (history trace handle)
  | .unanswered =>
    (∃ command, Ran codec trace call handle command) ∧
      (call, .error .terminated) ∈ returns (history trace handle)

def StageOk : Stage → Prop
  | .idle => call ∉ (dispatches trace).map Prod.fst ∧ Unheard trace call
  | .asked op => (call, op) ∈ dispatches trace ∧ Unheard trace call
  | .choosing command | .naming _ command | .named _ command =>
    AsksFor codec trace call (.default command) ∧ Unheard trace call
  | .spawning purpose _ | .making purpose _ _ | .made purpose _ =>
    AsksFor codec trace call purpose ∧ Unheard trace call
  | .created _ => AsksFor codec trace call .create ∧ Unheard trace call
  | .found handle command =>
    Seeks codec trace call handle command ∧ Unanswered trace call ∧ Uncalled trace call
  | .running handle => (∃ command, Ran codec trace call handle command) ∧ Unanswered trace call
  | .retiring handle reason => Cause codec trace call handle reason ∧ Unanswered trace call
  | .removed handle reason | .cleared handle reason | .disposing handle reason =>
    Cause codec trace call handle reason ∧ Unanswered trace call ∧ (call, handle) ∈ removals trace
  | .returned => True

/-- The two ways a command can come back: carried out, with its own result, or not, and then it
was given to no worker or came back from there without an answer. -/
def Fate (handle : Nat) (command : Command) (answer : Except DispatchError (List UInt8)) : Prop :=
  (∃ x ∈ executed (history trace handle), x.caller = call ∧ x.command = command ∧
    answer = reported codec x.result) ∨
  answer = .error (notActive handle) ∧
    (Uncalled trace call ∨
      OnlyAt trace call handle ∧ (call, .error .terminated) ∈ returns (history trace handle))

/-- What an answer says, by what was asked for. -/
def Meets (op : Operation) (answer : Except DispatchError (List UInt8)) : Prop :=
  match admitted codec op with
  | .error e => answer = .error e
  | .ok (.create _) => True
  | .ok .dispose => ∀ handle, op.handle = some handle →
    answer = .error (notActive handle) ∨
      (call, handle) ∈ removals trace ∧ answer = reported codec (.ok .undefined)
  | .ok (.command command) => ∀ handle, op.handle = some handle ∨ (call, handle) ∈ finds trace →
    Fate codec trace call handle command answer

def Settled (answer : Except DispatchError (List UInt8)) : Prop :=
  ∃ op, (call, op) ∈ dispatches trace ∧ Meets codec trace call op answer

end

variable {codec : Codec} {trace : List Sight} {sight : Sight} {call handle : Nat}

theorem calls_subset {x : Nat × Command} (member : x ∈ calls (history trace handle))
    (sight : Sight) : x ∈ calls (history (trace ++ [sight]) handle) := by
  rw [history_snoc, calls, List.filterMap_append]
  exact List.mem_append_left _ member

theorem returns_subset {x : Nat × Except EngineError Datum}
    (member : x ∈ returns (history trace handle)) (sight : Sight) :
    x ∈ returns (history (trace ++ [sight]) handle) := by
  rw [history_snoc, returns, List.filterMap_append]
  exact List.mem_append_left _ member

theorem executed_subset {x : Execution} (member : x ∈ executed (history trace handle))
    (sight : Sight) : x ∈ executed (history (trace ++ [sight]) handle) := by
  rw [history_snoc, executed, List.filterMap_append]
  exact List.mem_append_left _ member

theorem Asks.later {handle : Option Nat} {request : Request}
    (asks : Asks codec trace call handle request) (sight : Sight) :
    Asks codec (trace ++ [sight]) call handle request := by
  obtain ⟨op, asked, shape⟩ := asks
  exact ⟨op, by simp [asked], shape⟩

theorem AsksFor.later {purpose : Purpose} (asks : AsksFor codec trace call purpose)
    (sight : Sight) : AsksFor codec (trace ++ [sight]) call purpose := by
  cases purpose with
  | create =>
    obtain ⟨handle, options, asks⟩ := asks
    exact ⟨handle, options, asks.later sight⟩
  | default command => exact Asks.later asks sight

section

variable (elsewhere : sight.call? ≠ some call)
include elsewhere

theorem Unanswered.other (held : Unanswered trace call) : Unanswered (trace ++ [sight]) call := by
  cases sight <;> simp_all [Unanswered, Sight.call?, eq_comm]

theorem calls_other (member : call ∈ (calls (history (trace ++ [sight]) handle)).map Prod.fst) :
    call ∈ (calls (history trace handle)).map Prod.fst := by
  cases sight with
  | inside place event =>
    by_cases same : place = handle
    · cases event <;> simp_all [Sight.call?, eq_comm]
    · simpa [same] using member
  | _ => simpa using member

theorem Uncalled.other (held : Uncalled trace call) : Uncalled (trace ++ [sight]) call :=
  fun handle member => held handle (calls_other elsewhere member)

theorem OnlyAt.other (held : OnlyAt trace call handle) : OnlyAt (trace ++ [sight]) call handle :=
  fun other member => held other (calls_other elsewhere member)

theorem finds_other (member : (call, handle) ∈ finds (trace ++ [sight])) :
    (call, handle) ∈ finds trace := by
  cases sight <;> simp_all [Sight.call?, eq_comm]

theorem Unheard.other (held : Unheard trace call) : Unheard (trace ++ [sight]) call := by
  refine ⟨held.1.other elsewhere, ?_, held.2.2.other elsewhere⟩
  have given := held.2.1
  cases sight <;> simp_all [Sight.call?, eq_comm]

theorem Seeks.other {command : Command} (seeks : Seeks codec trace call handle command) :
    Seeks codec (trace ++ [sight]) call handle command :=
  ⟨seeks.1.imp (Asks.later · sight) (Asks.later · sight),
    fun other found => seeks.2 other (finds_other elsewhere found)⟩

theorem Ran.other {command : Command} (ran : Ran codec trace call handle command) :
    Ran codec (trace ++ [sight]) call handle command :=
  ⟨ran.1.other elsewhere, calls_subset ran.2.1 sight, ran.2.2.other elsewhere⟩

theorem Cause.other {reason : Reason} (cause : Cause codec trace call handle reason) :
    Cause codec (trace ++ [sight]) call handle reason := by
  cases reason with
  | asked => exact Asks.later cause sight
  | fatal message =>
    obtain ⟨⟨command, ran⟩, gave⟩ := cause
    exact ⟨⟨command, ran.other elsewhere⟩, returns_subset gave sight⟩
  | unanswered =>
    obtain ⟨⟨command, ran⟩, gave⟩ := cause
    exact ⟨⟨command, ran.other elsewhere⟩, returns_subset gave sight⟩

/-- The progress of one call does not disturb what is known of another. -/
theorem StageOk.other {stage : Stage} (ok : StageOk codec trace call stage) :
    StageOk codec (trace ++ [sight]) call stage := by
  cases stage with
  | idle =>
    refine ⟨?_, ok.2.other elsewhere⟩
    have given := ok.1
    cases sight <;> simp_all [Sight.call?, eq_comm]
  | asked op => exact ⟨by simp [ok.1], ok.2.other elsewhere⟩
  | choosing | naming | named | spawning | making | made | created =>
    exact ⟨ok.1.later sight, ok.2.other elsewhere⟩
  | found => exact ⟨ok.1.other elsewhere, ok.2.1.other elsewhere, ok.2.2.other elsewhere⟩
  | running =>
    obtain ⟨⟨command, ran⟩, unanswered⟩ := ok
    exact ⟨⟨command, ran.other elsewhere⟩, unanswered.other elsewhere⟩
  | retiring => exact ⟨ok.1.other elsewhere, ok.2.other elsewhere⟩
  | removed | cleared | disposing =>
    exact ⟨ok.1.other elsewhere, ok.2.1.other elsewhere, by simp [ok.2.2]⟩
  | returned => trivial

theorem Fate.other {command : Command} {answer : Except DispatchError (List UInt8)}
    (fate : Fate codec trace call handle command answer) :
    Fate codec (trace ++ [sight]) call handle command answer := by
  rcases fate with ⟨x, member, shape⟩ | ⟨lost, uncalled | ⟨only, gave⟩⟩
  · exact .inl ⟨x, executed_subset member sight, shape⟩
  · exact .inr ⟨lost, .inl (uncalled.other elsewhere)⟩
  · exact .inr ⟨lost, .inr ⟨only.other elsewhere, returns_subset gave sight⟩⟩

theorem Settled.other {answer : Except DispatchError (List UInt8)}
    (settled : Settled codec trace call answer) :
    Settled codec (trace ++ [sight]) call answer := by
  obtain ⟨op, asked, meets⟩ := settled
  refine ⟨op, by simp [asked], ?_⟩
  unfold Meets at meets ⊢
  split <;> rename_i shape <;> simp only [shape] at meets
  · exact meets
  · trivial
  · intro handle named
    exact (meets handle named).imp_right (And.imp_left fun member => by simp [member])
  · intro handle target
    exact (meets handle (target.imp_right (finds_other elsewhere))).other elsewhere

end

end Dispatcher

end ScriptHost

/-! ### Who disposes of workers -/

namespace ScriptHost

variable {K : EngineKind}

/-- The engine that a call has taken out because its command came back without an answer. -/
@[simp] def Stage.broken? : Stage → Option Nat
  | .removed handle .unanswered | .cleared handle .unanswered | .disposing handle .unanswered =>
    some handle
  | _ => none

namespace Dispatcher

/-- Who disposes of workers, and how those are that left commands without an answer. -/
structure Disposals (trace : List Sight) (s : Shared K) : Prop where
  removers : ∀ handle caller, .disposing caller ∈ history trace handle →
    (caller, handle) ∈ removals trace
  failed : ∀ call handle worker, (s.stages call).broken? = some handle →
    s.workers handle = some worker → worker.failed = true

variable {codec : Codec} {trace : List Sight} {s s' : Shared K} {sight : Sight}
  {call handle : Nat}

theorem Disposals.start (settings : Settings) (plan : K.Plan) :
    Disposals [] (.start settings plan) where
  removers _ _ seen := absurd seen List.not_mem_nil
  failed _ _ _ held := by cases held

theorem broken_update {stage : Stage}
    (kept : ∀ handle, stage.broken? = some handle → (s.stages call).broken? = some handle)
    (other handle : Nat)
    (held : (Function.update s.stages call stage other).broken? = some handle) :
    (s.stages other).broken? = some handle := by
  by_cases same : other = call
  · rw [same, Function.update_self] at held
    exact same ▸ kept handle held
  · rwa [Function.update_of_ne same] at held

/-- Steps in which no other call takes an engine out, and no worker recovers. -/
theorem Disposals.same (disposals : Disposals trace s)
    (seen : ∀ handle caller, .disposing caller ∈ (sight.inside? handle).toList →
      (caller, handle) ∈ removals trace)
    (stages : ∀ call handle, (s'.stages call).broken? = some handle →
      (s.stages call).broken? = some handle)
    (workers : ∀ call handle worker, (s.stages call).broken? = some handle →
      s'.workers handle = some worker →
      ∃ before, s.workers handle = some before ∧ (before.failed = true → worker.failed = true)) :
    Disposals (trace ++ [sight]) s' := by
  constructor
  · intro handle caller member
    rw [history_snoc, List.mem_append] at member
    rw [removals_snoc]
    exact List.mem_append_left _
      (member.elim (disposals.removers handle caller) (seen handle caller))
  · intro call handle worker broken held
    obtain ⟨before, held, failed⟩ := workers call handle worker (stages call handle broken) held
    exact failed (disposals.failed call handle before (stages call handle broken) held)

theorem failed_update {worker next after : Worker.Shared K} {event : Event} {other : Nat}
    (held : s.workers handle = some worker) (step : Worker.Step worker event next)
    (moved : Function.update s.workers handle (some next) other = some after) :
    ∃ before, s.workers other = some before ∧ (before.failed = true → after.failed = true) := by
  by_cases same : other = handle
  · rw [same, Function.update_self, Option.some.injEq] at moved
    exact ⟨worker, same ▸ held, fun failed => moved ▸ step.failed_mono failed⟩
  · rw [Function.update_of_ne same] at moved
    exact ⟨after, moved, id⟩

theorem StageOk.removed_of_broken {stage : Stage} (ok : StageOk codec trace call stage)
    (broken : stage.broken? = some handle) : (call, handle) ∈ removals trace := by
  cases stage with
  | removed place reason | cleared place reason | disposing place reason =>
    cases reason <;> simp only [Stage.broken?, reduceCtorEq, Option.some.injEq] at broken
    exact broken ▸ ok.2.2
  | _ => simp at broken

/-- The worker of an engine in the table was not disposed of, so a command that came back from
it without an answer tells that it has failed. -/
theorem Disposals.failed_of_unanswered {worker : Worker.Shared K} (never : K.NeverTerminated)
    (disposals : Disposals trace s) (histories : Histories trace s) (handles : Handles trace s)
    (active : handle ∈ s.table) (held : s.workers handle = some worker)
    (gave : (call, .error .terminated) ∈ returns (history trace handle)) :
    worker.failed = true := by
  obtain ⟨engine, -, run⟩ := histories.runs handle worker held
  refine run.failed_of_terminated never (fun caller disposed => ?_) gave
  exact (handles.table handle active).2
    (List.mem_map_of_mem (disposals.removers handle caller disposed))

theorem Disposals.step (never : K.NeverTerminated) (histories : Histories trace s)
    (handles : Handles trace s) (stages : ∀ call, StageOk codec trace call (s.stages call))
    (disposals : Disposals trace s) (step : Step s sight s') : Disposals (trace ++ [sight]) s' := by
  cases step with
  | retire stage active =>
    rename_i call handle reason
    have cause := stages call
    rw [stage] at cause
    constructor
    · intro place caller member
      rw [removals_snoc]
      exact List.mem_append_left _ (disposals.removers place caller (by simpa using member))
    · intro other place worker broken held
      by_cases same : other = call
      · cases reason <;> simp [same] at broken
        subst broken
        exact disposals.failed_of_unanswered never histories handles active held cause.1.2
      · exact disposals.failed other place worker (by simpa [same] using broken) held
  | make stage spawned engine =>
    refine disposals.same (by simp) (broken_update (by simp)) ?_
    rename_i maker purpose limits fresh _ _ _ _
    intro call handle worker broken held
    -- The handle of a new engine was not in the table yet, let alone taken out.
    have differs : handle ≠ fresh := by
      rintro rfl
      exact (handles.pending maker handle (by simp [stage])).2.2
        (List.mem_map_of_mem ((stages call).removed_of_broken broken))
    exact ⟨worker, by simpa [differs] using held, id⟩
  | run stage held moved =>
    exact disposals.same (by simp) (broken_update (by simp)) fun _ _ _ _ => failed_update held moved
  | @letGo call handle reason worker next stage held moved =>
    have ok := stages call
    rw [stage] at ok
    refine disposals.same ?_ (broken_update ?_) fun _ _ _ _ => failed_update held moved
    · simp only [Sight.inside?, Option.mem_toList, Option.ite_none_right_eq_some,
        Option.some.injEq, Event.disposing.injEq]
      rintro _ _ ⟨rfl, rfl⟩
      exact ok.2.2
    · cases reason <;> simp [stage]
  | @work handle event worker next held moved inner =>
    refine disposals.same ?_ (fun _ _ broken => broken) fun _ _ _ _ => failed_update held moved
    simp only [Sight.inside?, Option.mem_toList, Option.ite_none_right_eq_some, Option.some.injEq]
    rintro _ _ ⟨-, rfl⟩
    cases inner
  | @clear call handle reason stage free =>
    refine disposals.same (by simp) (broken_update ?_) fun _ _ _ _ held => ⟨_, held, id⟩
    cases reason <;> simp [stage]
  | _ =>
    exact disposals.same (by simp) (broken_update (by simp)) fun _ _ _ _ held => ⟨_, held, id⟩

end Dispatcher

end ScriptHost
