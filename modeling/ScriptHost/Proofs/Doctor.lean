import ScriptHost.Doctor
import ScriptHost.Proofs.Channel.HostCalls
import ScriptHost.Proofs.Dispatch.Implicit

/-! The doctor on a live dispatcher. It makes an engine of its own and leaves none behind: whichever of
its checks the engine fails or does not survive, the other engines, the table and the default handle
are afterwards what they were, and the report says how many checks there were and whether all of
them were passed. -/

namespace ScriptHost

variable {K : EngineKind} {α β : Type}

namespace Doctor

open Dispatcher Dispatch

variable {before d : Dispatcher K} {own : Option (Worker K)}

/-- The dispatcher while it has one engine more than before, which is on trial, or once that engine is
gone. -/
structure OnTrial (before : Dispatcher K) (own : Option (Worker K)) (d : Dispatcher K) : Prop where
  consistent : d.Consistent
  engines : d.engines = before.engines ++ (own.map (before.next, ·)).toList
  default : d.default = before.default
  created : d.created = before.next :: before.created
  dropped : d.dropped = if own.isSome then before.dropped else before.next :: before.dropped

theorem onTrial_unlogged : OnTrial before own d.unlogged ↔ OnTrial before own d := by
  constructor
  · intro ⟨consistent, engines, isDefault, created, dropped⟩
    exact ⟨consistent_unlogged.mp consistent, engines, isDefault, created, dropped⟩
  · intro ⟨consistent, engines, isDefault, created, dropped⟩
    exact ⟨consistent_unlogged.mpr consistent, engines, isDefault, created, dropped⟩

theorem OnTrial.active (trial : OnTrial before own d) :
    d.activeHandles = before.activeHandles ++ if own.isSome then [before.next] else [] := by
  rw [activeHandles, trial.engines, List.map_append]
  cases own <;> rfl

/-- The other engines have other handles. -/
theorem fresh (consistent : before.Consistent) {entry : Nat × Worker K}
    (member : entry ∈ before.engines) : entry.1 ≠ before.next :=
  Nat.ne_of_lt (consistent.active_below (List.mem_map_of_mem member)).2

theorem default_ne (consistent : before.Consistent) : before.default ≠ some before.next := by
  intro isNext
  have active := consistent.default_active before.next isNext
  exact absurd (consistent.active_below active).2 (Nat.lt_irrefl _)

theorem OnTrial.dismissed {worker : Worker K} (consistent : before.Consistent)
    (trial : OnTrial before (some worker) d) : OnTrial before none (d.dismissed before.next) where
  consistent := trial.consistent.dismissed before.next
  engines := by
    have others : before.engines.filter (fun entry => entry.1 != before.next) = before.engines := by
      rw [List.filter_eq_self]
      intro entry member
      simpa using fresh consistent member
    show d.engines.filter (fun entry => entry.1 != before.next) = _
    rw [trial.engines, List.filter_append, others]
    simp
  default := by
    show (if d.default = some before.next then none else d.default) = before.default
    rw [trial.default, if_neg (default_ne consistent)]
  created := trial.created
  dropped := by
    show before.next :: d.dropped = _
    rw [trial.dropped]
    rfl

theorem OnTrial.update {worker : Worker K} (consistent : before.Consistent)
    (trial : OnTrial before (some worker) d) (engine : K.Engine) :
    OnTrial before (some (.live before.next engine)) (d.update (.live before.next engine)) where
  consistent := trial.consistent.update before.next engine
  engines := by
    have others : before.engines.map (fun entry =>
        if entry.1 = before.next then (before.next, Worker.live before.next engine) else entry) =
          before.engines := by
      rw [List.map_congr_left, List.map_id]
      intro entry member
      exact if_neg (fresh consistent member)
    show d.engines.map (fun entry =>
      if entry.1 = before.next then (before.next, Worker.live before.next engine) else entry) = _
    rw [trial.engines, List.map_append, others]
    simp
  default := trial.default
  created := trial.created
  dropped := trial.dropped

/-- Whatever the engine on trial is asked to do, it is still on trial, or gone for good. -/
theorem OnTrial.answered (consistent : before.Consistent) (trial : OnTrial before own d)
    {request : Request} (asks : ∀ options, request ≠ .create options) :
    ∃ left, OnTrial before left (d.answered (some before.next) request).2 ∧
      (own = none ∨ request = .dispose → left = none) := by
  have stands : d.worker? before.next = none ↔ own = none := by
    rw [worker?_eq_none_iff, trial.active]
    have apart : before.next ∉ before.activeHandles := by
      intro active
      exact absurd (consistent.active_below active).2 (Nat.lt_irrefl _)
    cases own <;> simp [apart]
  unfold Dispatcher.answered
  cases held : d.worker? before.next with
  | none =>
    have gone := stands.mp held
    cases request with
    | create options => exact absurd rfl (asks options)
    | dispose => exact ⟨own, by simpa only [held] using trial, fun _ => gone⟩
    | command command => exact ⟨own, by simpa only [resolved, held] using trial, fun _ => gone⟩
  | some worker =>
    obtain ⟨-, engine, rfl⟩ := worker?_live trial.consistent held
    cases own with
    | none =>
      rw [stands.mpr rfl] at held
      cases held
    | some before' =>
      cases request with
      | create options => exact absurd rfl (asks options)
      | dispose =>
        refine ⟨none, ?_, fun _ => rfl⟩
        simpa only [held] using trial.dismissed consistent
      | command command =>
        simp only [resolved, held]
        obtain ⟨e, shape⟩ | ⟨answer, final, shape⟩ := carried_cases command before.next engine d
        · rw [shape]
          exact ⟨none, trial.dismissed consistent, fun _ => rfl⟩
        · rw [shape]
          exact ⟨_, trial.update consistent final, by simp⟩

theorem OnTrial.dispatch (consistent : before.Consistent) (trial : OnTrial before own d)
    {op : Operation} (named : op.handle = some before.next)
    (other : op.name ≠ OperationName.createEngine.word) :
    ∃ left, OnTrial before left (exec (dispatch op) d).2 ∧ (own = none → left = none) := by
  have responded : (exec (Dispatcher.dispatch op) d).2.unlogged = (d.unlogged.respond op).2 := by
    rw [← effect_dispatch trial.consistent op]
    rfl
  rw [← onTrial_unlogged] at trial
  unfold respond at responded
  cases asked : admitted d.unlogged.codec op with
  | error e =>
    rw [asked] at responded
    exact ⟨own, onTrial_unlogged.mp (responded ▸ trial), id⟩
  | ok request =>
    have asks (options : EngineOptions) : request ≠ .create options := by
      rintro rfl
      exact other (admitted_create asked)
    obtain ⟨left, kept, gone⟩ := trial.answered consistent asks
    simp only [asked, named] at responded
    exact ⟨left, onTrial_unlogged.mp (responded ▸ kept), fun none => gone (.inl none)⟩

theorem OnTrial.disposed (consistent : before.Consistent) (trial : OnTrial before own d) :
    OnTrial before none (exec (disposeEngine before.next) d).2 := by
  have responded := (sends_disposeEngine before.next).effect trial.consistent
  have asked : admitted d.unlogged.codec
      ⟨OperationName.disposeEngine.word, some before.next, []⟩ = .ok .dispose :=
    admitted_eq_ok_iff.mpr
      ⟨_, OperationName.ofWord?_word .disposeEngine, Nat.zero_le _, rfl⟩
  have other (options : EngineOptions) : Request.dispose ≠ .create options := nofun
  obtain ⟨left, kept, gone⟩ := (onTrial_unlogged.mpr trial).answered consistent other
  obtain rfl := gone (.inr rfl)
  simp only [respond, asked] at responded
  have after : (exec (disposeEngine before.next) d).2.unlogged =
      (d.unlogged.answered (some before.next) .dispose).2 := by
    show (effect (disposeEngine before.next) d).2 = _
    rw [responded]
    rcases d.unlogged.answered (some before.next) .dispose with ⟨_ | _, _⟩ <;> rfl
  exact onTrial_unlogged.mp (after ▸ kept)

/-- A typed call on the engine on trial. -/
theorem OnTrial.through (consistent : before.Consistent) (trial : OnTrial before own d)
    (call : TypedCall α) :
    ∃ left, OnTrial before left (exec (call.through (some before.next)) d).2 ∧
      (own = none → left = none) := by
  cases written : call.payload d.codec with
  | error e =>
    rw [TypedCall.exec_through_unwritten written]
    exact ⟨own, trial, id⟩
  | ok bytes =>
    have other : call.operation.word ≠ OperationName.createEngine.word := fun same =>
      call.operation_ne (OperationName.word_inj same)
    let op : Operation := ⟨call.operation.word, some before.next, bytes⟩
    have named : op.handle = some before.next := rfl
    obtain ⟨left, kept, gone⟩ := trial.dispatch consistent named other
    refine ⟨left, ?_, gone⟩
    rwa [Sends.after (TypedCall.exec_through written _)]

/-- An engine is made and its handle told, or there is none. -/
theorem effect_createEngine_cases (consistent : d.Consistent) (room : 10 ≤ d.codec.limit)
    (few : d.next < 2 ^ 63) :
    (∃ e plan, effect (createEngine none) d = (.error e, d.unlogged.attempted plan)) ∨
    (∃ engine plan, effect (createEngine none) d =
      (.ok d.next, d.unlogged.joined (.live d.next engine) plan)) := by
  have sends : Sends (createEngine none) d creation _ := sends_createEngine rfl
  rw [sends.effect consistent]
  obtain ⟨e, plan, made⟩ | ⟨engine, plan, made⟩ := made_cases d.unlogged.limits d.unlogged
  · rw [respond_creation, made]
    exact .inl ⟨e, plan, rfl⟩
  · have ordered : (Datum.int (Int64.ofNat d.next)).Ordered := trivial
    have told : reported d.codec (.ok (.int (Int64.ofNat d.next))) =
        .ok (Wire.write (Datum.int (Int64.ofNat d.next))) := reported_handle room d.next
    have read : (readable (Wire.write (Datum.int (Int64.ofNat d.next))) >>= handleOf) =
        .ok d.next := by
      rw [readable_reported ordered told]
      show handleOf (.int (Int64.ofNat d.next)) = _
      rw [handleOf, Datum.asNat?_ofNat few]
    have responds : d.unlogged.respond creation =
        (.ok (Wire.write (Datum.int (Int64.ofNat d.next))),
          d.unlogged.joined (.live d.next engine) plan) := by
      rw [respond_creation, made]
      exact congrArg (Prod.mk · _) told
    rw [responds]
    exact .inr ⟨engine, plan, congrArg (Prod.mk · _) read⟩

theorem bind_apply (m : StateM (Dispatcher K) α) (next : α → StateM (Dispatcher K) β)
    (d : Dispatcher K) : (m >>= next) d = next (m d).1 (m d).2 := rfl

theorem pure_apply (a : α) (d : Dispatcher K) : (pure a : StateM (Dispatcher K) α) d = (a, d) := rfl

theorem attempt_apply (m : Dispatch K α) (d : Dispatcher K) : attempt m d = exec m d := rfl

theorem length_engineChecks (handle : Nat) (d : Dispatcher K) :
    (engineChecks handle d).1.length = 4 := by
  unfold engineChecks
  simp only [bind_apply, pure_apply, List.length_cons, List.length_nil]

theorem engineChecks_snd (handle : Nat) (d : Dispatcher K) :
    (engineChecks handle d).2 =
      (exec (evalScript (some handle) "1")
        (exec (disposeEngine handle)
          (exec (callFunction (some handle) ⟨.path "Math.max", [.int 3, .int 7]⟩)
            (exec (evalScript (some handle) "1 + 1") d).2).2).2).2 := by
  unfold engineChecks
  simp only [bind_apply, attempt_apply, pure_apply]

/-- What the checks of an engine leave of it. -/
theorem engineChecks_onTrial (consistent : before.Consistent) (trial : OnTrial before own d) :
    OnTrial before none (engineChecks before.next d).2 := by
  obtain ⟨afterSum, summed, _⟩ := trial.through consistent (.evalScript "1 + 1")
  obtain ⟨afterCall, called, _⟩ :=
    summed.through consistent (.callFunction ⟨.path "Math.max", [.int 3, .int 7]⟩)
  have disposed := called.disposed consistent
  obtain ⟨left, stale, gone⟩ := disposed.through consistent (.evalScript "1")
  obtain rfl := gone rfl
  rw [engineChecks_snd]
  exact stale

theorem checks_of_error {e : DispatchError}
    (failed : exec (createEngine none) before = (.error e, d)) :
    checks.run before = ([check "create_engine" (.error e)], d) := by
  show checks before = _
  unfold checks
  rw [bind_apply, attempt_apply, failed]
  rfl

theorem checks_of_handle {handle : Nat}
    (made : exec (createEngine none) before = (.ok handle, d)) :
    checks.run before =
      (check "create_engine" (.ok ()) :: (engineChecks handle d).1, (engineChecks handle d).2) := by
  show checks before = _
  unfold checks
  rw [bind_apply, attempt_apply, made]
  dsimp only
  rw [bind_apply]
  rfl

/-- What the doctor's checks come to: nothing is left of the engines it made, and the checks are one
that was not passed or five, as making an engine failed or not. -/
structure Examined (before : Dispatcher K) (made : List Nat) (checks : List DoctorCheck)
    (after : Dispatcher K) : Prop where
  engines : after.engines = before.engines
  default : after.default = before.default
  created : after.created = made ++ before.created
  dropped : after.dropped = made ++ before.dropped
  failed : ∀ e, (exec (createEngine none) before).1 = .error e →
    made = [] ∧ ∃ only, checks = [only] ∧ only.status = .fail
  succeeded : ∀ handle, (exec (createEngine none) before).1 = .ok handle →
    made = [handle] ∧ checks.length = 5

theorem checks_examined (consistent : before.Consistent) (room : 10 ≤ before.codec.limit)
    (few : before.next < 2 ^ 63) :
    ∃ made, Examined before made (checks.run before).1 (checks.run before).2 := by
  rcases ran : exec (createEngine none) before with ⟨outcome, d⟩
  have effect_eq : effect (createEngine none) before = (outcome, d.unlogged) := by
    simp only [effect, ran]
  obtain ⟨e, plan, failed⟩ | ⟨engine, plan, made⟩ := effect_createEngine_cases consistent room few
  · rw [effect_eq] at failed
    obtain ⟨rfl, after⟩ := Prod.mk.inj failed
    rw [checks_of_error ran]
    refine ⟨[], (congrArg Dispatcher.engines after :), (congrArg Dispatcher.default after :),
      (congrArg Dispatcher.created after :), (congrArg Dispatcher.dropped after :), ?_, ?_⟩
    · intro e _
      exact ⟨rfl, _, rfl, rfl⟩
    · intro handle told
      rw [ran] at told
      cases told
  · rw [effect_eq] at made
    obtain ⟨rfl, after⟩ := Prod.mk.inj made
    have trial : OnTrial before (some (.live before.next engine)) d :=
      onTrial_unlogged.mp
        { consistent := by
            rw [after]
            exact (consistent_unlogged.mpr consistent).joined engine plan
          engines := (congrArg Dispatcher.engines after :)
          default := (congrArg Dispatcher.default after :)
          created := (congrArg Dispatcher.created after :)
          dropped := (congrArg Dispatcher.dropped after :) }
    have left := engineChecks_onTrial consistent trial
    rw [checks_of_handle ran]
    refine ⟨[before.next], ?_, left.default, left.created, left.dropped, ?_, ?_⟩
    · simpa using left.engines
    · intro e told
      rw [ran] at told
      cases told
    · intro handle told
      rw [ran] at told
      cases told
      exact ⟨rfl, congrArg (· + 1) (length_engineChecks _ _)⟩

/-- The doctor leaves the engines, the table and the default handle of a dispatcher as they were: it
drops what it makes, whatever its engine does. It reports one check, which was not passed, when no
engine could be made, and five otherwise, and it passes exactly when every check was passed. -/
theorem run_leaves_nothing (facts : HostFacts) (runId : String) (config : Json) (ch : Channel K)
    (reachable : ch.dispatcher.Reachable) (room : 10 ≤ ch.dispatcher.codec.limit)
    (few : ch.dispatcher.next < 2 ^ 63) :
    ∃ made report, (run facts runId config ch).1.data = some (DoctorReport.toJson report) ∧
      Examined ch.dispatcher made report.checks (run facts runId config ch).2.dispatcher ∧
      (run facts runId config ch).1.status =
        if ∀ check ∈ report.checks, check.status = .pass then .pass else .fail := by
  obtain ⟨made, examined⟩ := checks_examined reachable.consistent room few
  unfold run
  generalize checks.run ch.dispatcher = outcome at examined ⊢
  obtain ⟨checks, after⟩ := outcome
  refine ⟨made, _, rfl, examined, ?_⟩
  simp only [List.all_eq_true, decide_eq_true_eq]

/-- The doctor on a daemon whose default engine was made by the call before. -/
theorem run_leaves_nothing_default :
    (run {} "id" .null ⟨"daemon", (Dispatcher.ofSettings {} () :
        Dispatcher (ScriptedEngine.kind false)).after
          [{ name := "evalScript", payload := [49] }]⟩).2.dispatcher.default = some 1 := by
  obtain ⟨made, report, -, examined, -⟩ := run_leaves_nothing {} "id" .null
    ⟨"daemon", (Dispatcher.ofSettings {} () : Dispatcher (ScriptedEngine.kind false)).after
      [{ name := "evalScript", payload := [49] }]⟩
    ⟨{}, (), [{ name := "evalScript", payload := [49] }], rfl⟩ (by decide) (by decide)
  exact examined.default.trans rfl

end Doctor

end ScriptHost
