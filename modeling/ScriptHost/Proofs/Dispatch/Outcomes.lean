import ScriptHost.Proofs.Dispatch.Conduct
import ScriptHost.Proofs.Dispatch.Solo

/-! What operations come to that are in progress at once. A command is carried out by its engine
in its turn and answered with its own result, or no engine carries it out and the answer is that
the engine is not active; whichever order the calls take turns in, each of them is answered. -/

namespace ScriptHost

variable {K : EngineKind}

namespace Dispatcher

variable {codec : Codec} {trace : List Sight} {s s' : Shared K} {sight : Sight}
  {call handle : Nat}

/-- Where the text of a fatal error comes from: from the call's own command, or from an engine
that could not be made. -/
def Origin (K : EngineKind) (stack : UInt64) (codec : Codec) (trace : List Sight) (call : Nat)
    (message : String) : Prop :=
  (∃ handle, ∃ x ∈ executed (history trace handle),
    x.caller = call ∧ x.result = .error (.fatal message)) ∨
  (∃ purpose, AsksFor codec trace call purpose) ∧ ∃ handle limits, ∃ plan : K.Plan,
    (Worker.spawn handle limits stack plan).1 = .error (.fatal message)

theorem Origin.later {stack : UInt64} {message : String}
    (origin : Origin K stack codec trace call message) (sight : Sight) :
    Origin K stack codec (trace ++ [sight]) call message := by
  rcases origin with ⟨handle, x, member, own⟩ | ⟨⟨purpose, asks⟩, failed⟩
  · exact .inl ⟨handle, x, executed_subset member sight, own⟩
  · exact .inr ⟨⟨purpose, asks.later sight⟩, failed⟩

theorem admitted_not_fatal (codec : Codec) (op : Operation) (message : String) :
    admitted codec op ≠ .error (.engineFatal message) := by
  have unread (result : Except CodecError Request) :
      result.mapError DispatchError.ofCodec ≠ .error (.engineFatal message) := by
    rcases result with (_ | _ | _) | _ <;> simp [Except.mapError, DispatchError.ofCodec]
  unfold admitted
  split
  · simp
  · split
    · simp
    · exact unread _

/-- A fatal result that a call came back with is that of its own command. -/
theorem Cause.origin {stack : UInt64} {message : String} (never : K.NeverTerminated)
    (histories : Histories trace s) (cause : Cause codec trace call handle (.fatal message)) :
    Origin K stack codec trace call message := by
  obtain ⟨⟨command, ran⟩, gave⟩ := cause
  obtain ⟨x, member, own, -, result⟩ := ran.carried never histories gave (by simp)
  exact .inl ⟨handle, x, member, own, result⟩

/-- Nobody is told of a fatal error but whose command was fatal or who needed a new engine. -/
theorem Conduct.origin {message : String} (never : K.NeverTerminated)
    (histories : Histories trace s) (disposals : Disposals trace s)
    (conduct : Conduct s.codec trace s)
    (step : Step s (.answered call (.error (.engineFatal message))) s') :
    Origin K s.settings.workerStack s.codec trace call message := by
  generalize said : (Except.error (.engineFatal message) : Except DispatchError (List UInt8)) =
    answer at step
  cases step with
  | reject stage asked =>
    cases said
    exact absurd asked (admitted_not_fatal _ _ _)
  | disposeNothing | disposeMissing | missing | noDefault | unnamed => cases said
  | @unmade _ purpose limits handle e log plan stage failed =>
    obtain ⟨asks, -⟩ := conduct.at stage
    cases e <;> cases said
    exact .inr ⟨⟨purpose, asks⟩, handle, limits, s.plan, by rw [failed]⟩
  | tell => cases reported_fatal said.symm
  | answer stage held back alive =>
    rw [reported_fatal said.symm] at alive
    cases alive
  | @retired _ handle reason stage =>
    obtain ⟨cause, -⟩ := conduct.at stage
    cases reason with
    | fatal message =>
      cases said
      exact cause.origin never histories
    | asked | unanswered => cases said
  | @gone _ handle reason worker stage held =>
    obtain ⟨cause, -⟩ := conduct.at stage
    cases reason with
    | asked =>
      rw [finalAnswer] at said
      cases reported_fatal said.symm
    | fatal message =>
      cases said
      exact cause.origin never histories
    | unanswered =>
      have failed := disposals.failed call handle worker (by simp [stage]) held
      rw [finalAnswer, failed, if_pos rfl] at said
      cases said

/-- What is kept of operations in progress from step to step. -/
structure Ledger (trace : List Sight) (s : Shared K) : Prop where
  histories : Histories trace s
  disposals : Disposals trace s
  conduct : Conduct s.codec trace s
  returned : ∀ call, s.stages call = .returned ↔ call ∈ (answers trace).map Prod.fst
  answered_once : ((answers trace).map Prod.fst).Nodup
  origin : ∀ call message, (call, .error (.engineFatal message)) ∈ answers trace →
    Origin K s.settings.workerStack s.codec trace call message

theorem Ledger.start (settings : Settings) (plan : K.Plan) :
    Ledger [] (.start settings plan : Shared K) where
  histories := .start settings plan
  disposals := .start settings plan
  conduct := .start _ settings plan
  returned _ := by simp [Shared.start, answers]
  answered_once := .nil
  origin _ _ member := absurd member List.not_mem_nil

theorem Ledger.step (never : K.NeverTerminated) (handles : Handles trace s)
    (ledger : Ledger trace s) (step : Step s sight s') : Ledger (trace ++ [sight]) s' := by
  obtain ⟨histories, disposals, conduct, returned, once, origin⟩ := ledger
  refine ⟨histories.step handles step,
    disposals.step never histories handles conduct.stages step, ?_, ?_, ?_, ?_⟩
  · rw [step.codec]
    exact conduct.step never rfl histories disposals step
  · intro call
    rw [step.stages_returned, returned]
    cases sight <;> simp [eq_comm]
  · cases sight with
    | answered call answer =>
      rw [answers_snoc, Sight.answered?, Option.toList_some, List.map_append, List.map_singleton]
      refine Worker.nodup_snoc once fun again => ?_
      have busy := step.busy_of_answered
      rw [(returned call).mpr again] at busy
      cases busy
    | _ => simpa using once
  · intro call message member
    rw [step.codec, step.settings]
    rw [answers_snoc, List.mem_append, Option.mem_toList] at member
    rcases member with member | now
    · exact (origin call message member).later sight
    · cases sight <;> cases now
      exact (conduct.origin never histories disposals step).later _

theorem Run.ledger {settings : Settings} {plan : K.Plan} (never : K.NeverTerminated)
    (run : Run (.start settings plan) trace s) : Ledger trace s := by
  induction run with
  | nil => exact .start settings plan
  | snoc run step ih => exact ih.step never run.placed.handles step

theorem Run.settings {settings : Settings} {plan : K.Plan}
    (run : Run (.start settings plan) trace s) : s.settings = settings.dispatcher := by
  induction run with
  | nil => rfl
  | snoc _ step ih => rw [step.settings, ih]

/-- How long a run can be with so many operations. -/
theorem Run.length_add_rest {settings : Settings} {plan : K.Plan} {callers : Finset Nat}
    (run : Run (.start settings plan) trace s)
    (members : ∀ call ∈ (dispatches trace).map Prod.fst, call ∈ callers) :
    trace.length + s.rest callers ≤ callers.card * (21 * callers.card + 18) := by
  induction run with
  | nil => simp [rest_start]
  | @snoc trace sight s s' run step ih =>
    have placed := run.placed
    have earlier : ∀ call ∈ (dispatches trace).map Prod.fst, call ∈ callers :=
      fun call member => members call (by simp_all)
    have lower : s'.rest callers < s.rest callers := by
      refine step.rest_lt placed.handles placed.places ?_ ?_
      · intro call busy
        exact earlier call (not_not.mp (mt (placed.begun call).mpr busy))
      · intro op begins
        refine members op.1 (List.mem_map_of_mem ?_)
        rw [dispatches_snoc, begins]
        simp
    have bound := ih earlier
    rw [List.length_append, List.length_singleton]
    omega

/-- What operations come to that are in progress at once. -/
structure Outcomes (settings : DispatcherSettings) (trace : List Sight) (s : Shared K) : Prop where
  kept : s.settings = settings
  /-- What happens at a worker is what happens when its commands are carried out one after
  another, in the order of its queue, up to the first fatal result or disposal. -/
  linear : ∀ handle worker, s.workers handle = some worker → ∃ engine : K.Engine,
    MadeFor s.settings.workerStack handle engine ∧
      Worker.Linear engine (history trace handle) worker
  /-- A command is carried out by the engine it is for and answered with its own result, or it is
  not carried out and the answer is that the engine is not active. -/
  command : ∀ call op command handle answer, (call, op) ∈ dispatches trace →
    admitted s.codec op = .ok (.command command) →
    op.handle = some handle ∨ (call, handle) ∈ finds trace → (call, answer) ∈ answers trace →
    (∃ x ∈ executed (history trace handle), x.caller = call ∧ x.command = command ∧
      answer = reported s.codec x.result) ∨
    answer = .error (notActive handle) ∧
      ∀ other, ∀ x ∈ executed (history trace other), x.caller ≠ call
  /-- Disposing takes the engine out of the table, or the answer is that it is not active. -/
  dispose : ∀ call op handle answer, (call, op) ∈ dispatches trace →
    admitted s.codec op = .ok .dispose → op.handle = some handle → (call, answer) ∈ answers trace →
    (call, handle) ∈ removals trace ∧
      answer = (if 0 < s.codec.limit then .ok [0] else
        .error (.internal "the size limit has been reached")) ∨
    answer = .error (notActive handle)
  /-- Only one call takes an engine out of the table. -/
  removed_once : ∀ call other handle, (call, handle) ∈ removals trace →
    (other, handle) ∈ removals trace → call = other
  /-- A fatal error is the call's own, or an engine could not be made for it. -/
  fatal : ∀ call message, (call, .error (.engineFatal message)) ∈ answers trace →
    Origin K s.settings.workerStack s.codec trace call message
  answered_once : ((answers trace).map Prod.fst).Nodup
  /-- Nobody waits for ever: until everybody is answered a step can be taken, and there are only
  so many steps for so many operations. -/
  answered : ∀ call op, (call, op) ∈ dispatches trace →
    (∃ answer, (call, answer) ∈ answers trace) ∨ Moves s
  bounded : trace.length ≤ (dispatches trace).length * (21 * (dispatches trace).length + 18)

theorem Ledger.asked (ledger : Ledger trace s) {op : Operation}
    {answer : Except DispatchError (List UInt8)} (asked : (call, op) ∈ dispatches trace)
    (gave : (call, answer) ∈ answers trace) : Meets s.codec trace call op answer := by
  obtain ⟨same, member, meets⟩ := (ledger.conduct.settled call answer gave).2
  have own := List.inj_on_of_nodup_map ledger.conduct.dispatched_once asked member rfl
  exact (Prod.mk.inj own).2 ▸ meets

/-- A command that no worker answered was carried out by none. -/
theorem Ledger.unexecuted (never : K.NeverTerminated) (ledger : Ledger trace s)
    (lost : Uncalled trace call ∨
      OnlyAt trace call handle ∧ (call, .error .terminated) ∈ returns (history trace handle))
    (other : Nat) : ∀ x ∈ executed (history trace other), x.caller ≠ call := by
  rintro x member rfl
  have seen : history trace other ≠ [] := by
    intro empty
    rw [empty] at member
    cases member
  obtain ⟨engine, worker, -, run⟩ := ledger.histories.run seen
  have linear := Worker.run_linear never run
  have called := List.mem_map_of_mem (f := Prod.fst) (linear.own_command x member)
  rcases lost with uncalled | ⟨only, gave⟩
  · exact uncalled other called
  · rw [← only other called] at gave
    exact (linear.terminated_iff _ _ gave).mp rfl x member rfl

theorem Ledger.bounded {settings : Settings} {plan : K.Plan} (never : K.NeverTerminated)
    (run : Run (.start settings plan) trace s) :
    trace.length ≤ (dispatches trace).length * (21 * (dispatches trace).length + 18) := by
  have members : ∀ call ∈ (dispatches trace).map Prod.fst,
      call ∈ ((dispatches trace).map Prod.fst).toFinset := fun call => List.mem_toFinset.mpr
  have card : ((dispatches trace).map Prod.fst).toFinset.card = (dispatches trace).length := by
    rw [List.toFinset_card_of_nodup (run.ledger never).conduct.dispatched_once, List.length_map]
  have bound := run.length_add_rest members
  rw [card] at bound
  omega

end Dispatcher

end ScriptHost
