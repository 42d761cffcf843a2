import ScriptHost.Proofs.Dispatch.Handles
import ScriptHost.Proofs.Wire.Requests

/-! Making and disposing of an engine, where that fails. A failure that comes before the table is
changed leaves all engines as they were: only a handle may have been used up. One failure comes
later. The answer is written once the engine has joined the table or left it, and when the limit has
no room for it, the caller is told of an error and never learns the handle. -/

namespace ScriptHost

variable {K : EngineKind}

namespace Dispatcher

open Dispatch Wire

variable {d after : Dispatcher K} {op : Operation} {e : DispatchError}

/-- The same engines stand in the table in the same states, the same one is the default, and none was
made or dropped. A handle may have been used up. -/
structure Undisturbed (before after : Dispatcher K) : Prop where
  engines : after.engines = before.engines
  default : after.default = before.default
  created : after.created = before.created
  dropped : after.dropped = before.dropped
  settings : after.settings = before.settings ∧ after.limits = before.limits
  next : after.next = before.next ∨ after.next = before.next + 1

theorem Undisturbed.refl (d : Dispatcher K) : Undisturbed d d :=
  ⟨rfl, rfl, rfl, rfl, ⟨rfl, rfl⟩, .inl rfl⟩

/-- The error of an answer that the limit has no room for. -/
def noRoom : DispatchError := .internal "the size limit has been reached"

/-- The operation was carried out, and there is no room to say so. -/
inductive Untold (d : Dispatcher K) : OperationName → Dispatcher K → Prop where
  | created {after : Dispatcher K} (engine : K.Engine) (plan : K.Plan) :
      d.codec.limit < (Wire.write (Datum.int (Int64.ofNat d.next))).length →
      after.unlogged = d.unlogged.joined (.live d.next engine) plan →
      Untold d .createEngine after
  | disposed {after : Dispatcher K} {handle : Nat} :
      d.codec.limit < (Wire.write Datum.undefined).length →
      handle ∈ d.activeHandles → after.unlogged = d.unlogged.dismissed handle →
      Untold d .disposeEngine after

theorem reported_eq_error_iff {codec : Codec} {value : Datum} :
    reported codec (.ok value) = .error e ↔
      codec.limit < (Wire.write value).length ∧ e = noRoom := by
  unfold reported Codec.encode noRoom
  dsimp only
  split
  · simp [Except.mapError, Nat.not_lt.mpr ‹_›]
  · simp [Except.mapError, DispatchError.ofCodec, Nat.not_le.mp ‹_›, eq_comm]

/-- The answer to a lifecycle operation is short. -/
theorem length_write_int_le (i : Int64) : (Wire.write (Datum.int i)).length ≤ 10 := by
  show (3 :: writeNat (fold i.toInt)).length ≤ 10
  rw [List.length_cons, length_writeNat]
  repeat' split
  all_goals omega

theorem Untold.limit_lt {name : OperationName} (untold : Untold d name after) :
    d.codec.limit < 10 := by
  cases untold with
  | created engine plan long => exact Nat.lt_of_lt_of_le long (length_write_int_le _)
  | disposed long => exact Nat.lt_of_lt_of_le long (by decide)

theorem answered_create_error {handle : Option Nat} {options : EngineOptions}
    (failed : d.answered handle (.create options) = (.error e, after)) :
    Undisturbed d after ∨ e = noRoom ∧ Untold d .createEngine after := by
  unfold answered at failed
  obtain ⟨reason, plan, shape⟩ | ⟨engine, plan, shape⟩ :=
    made_cases (d.limits.withOptions options) d <;>
    simp only [shape, Prod.mk.injEq] at failed
  · obtain ⟨-, rfl⟩ := failed
    exact .inl ⟨rfl, rfl, rfl, rfl, ⟨rfl, rfl⟩, .inr rfl⟩
  · obtain ⟨told, rfl⟩ := failed
    obtain ⟨long, rfl⟩ := reported_eq_error_iff.mp told
    exact .inr ⟨rfl, .created engine plan long rfl⟩

theorem answered_dispose_error {handle : Option Nat}
    (failed : d.answered handle .dispose = (.error e, after)) :
    Undisturbed d after ∨ e = noRoom ∧ Untold d .disposeEngine after := by
  unfold answered at failed
  cases handle with
  | none =>
    obtain ⟨-, rfl⟩ := Prod.mk.inj failed
    exact .inl (.refl d)
  | some handle =>
    cases found : d.worker? handle with
    | none =>
      simp only [found] at failed
      obtain ⟨-, rfl⟩ := Prod.mk.inj failed
      exact .inl (.refl d)
    | some worker =>
      simp only [found] at failed
      obtain ⟨told, rfl⟩ := Prod.mk.inj failed
      obtain ⟨long, rfl⟩ := reported_eq_error_iff.mp told
      have active : handle ∈ d.activeHandles := (worker?_isSome_iff handle).mp (by simp [found])
      exact .inr ⟨rfl, .disposed long active rfl⟩

theorem respond_error {name : OperationName} (lifecycle : name = .createEngine ∨ name = .disposeEngine)
    (named : op.name = name.word) (failed : d.respond op = (.error e, after)) :
    Undisturbed d after ∨ e = noRoom ∧ Untold d name after := by
  unfold respond at failed
  cases asked : admitted d.codec op with
  | error reason =>
    simp only [asked] at failed
    obtain ⟨-, rfl⟩ := Prod.mk.inj failed
    exact .inl (.refl d)
  | ok request =>
    simp only [asked] at failed
    obtain ⟨same, known, -, read⟩ := admitted_eq_ok_iff.mp asked
    rw [named, OperationName.ofWord?_word] at known
    cases known
    have asks := OperationName.request_eq_ok_iff.mp read
    rcases lifecycle with rfl | rfl
    · cases request with
      | create options => exact answered_create_error failed
      | _ => exact asks.elim
    · cases request with
      | dispose => exact answered_dispose_error failed
      | _ => exact asks.elim

/-- Where making or disposing of an engine fails, the engines are what they were, unless the limit has
no room for the answer, which takes ten bytes at most. -/
theorem failed_lifecycle_undisturbed (reachable : d.Reachable) {name : OperationName}
    (lifecycle : name = .createEngine ∨ name = .disposeEngine) (named : op.name = name.word)
    (failed : ((dispatch op).run d).1 = .error e) :
    (Undisturbed d ((dispatch op).run d).2 ∨ e = noRoom ∧ Untold d name ((dispatch op).run d).2) ∧
      (10 ≤ d.codec.limit → Undisturbed d ((dispatch op).run d).2) := by
  have consistent := reachable.consistent
  have responded : d.unlogged.respond op = (.error e, ((dispatch op).run d).2.unlogged) := by
    rw [← effect_dispatch consistent op]
    exact Prod.ext failed rfl
  have either : Undisturbed d ((dispatch op).run d).2 ∨
      e = noRoom ∧ Untold d name ((dispatch op).run d).2 := by
    refine (respond_error lifecycle named responded).imp ?_ (And.imp_right ?_)
    · -- Nothing that is said of the states looks at their logs.
      exact fun ⟨engines, isDefault, created, dropped, settings, next⟩ =>
        ⟨engines, isDefault, created, dropped, settings, next⟩
    · rintro (⟨engine, plan, long, same⟩ | ⟨long, active, same⟩)
      · exact .created engine plan long same
      · exact .disposed long active same
  refine ⟨either, fun room => either.resolve_right fun ⟨_, untold⟩ => ?_⟩
  exact absurd untold.limit_lt (Nat.not_lt.mpr room)

/-- An engine that cannot be made leaves nothing behind but a handle that is used up. -/
theorem failed_lifecycle_undisturbed_barren :
    ((dispatch { name := "createEngine" }).run
      (ofSettings {} () : Dispatcher (ScriptedEngine.kind true))).1 =
      .error (.engineFatal "scripted creation failure") ∧
    Undisturbed (ofSettings {} () : Dispatcher (ScriptedEngine.kind true))
      ((dispatch { name := "createEngine" }).run (ofSettings {} ())).2 := by
  have failed : ((dispatch { name := "createEngine" }).run
      (ofSettings {} () : Dispatcher (ScriptedEngine.kind true))).1 =
      .error (.engineFatal "scripted creation failure") := by rfl
  have lifecycle : OperationName.createEngine = .createEngine ∨
      OperationName.createEngine = .disposeEngine := .inl rfl
  refine ⟨failed, (failed_lifecycle_undisturbed ?_ lifecycle rfl failed).2 ?_⟩
  · exact ⟨{}, (), [], rfl⟩
  · decide

/-- A dispatcher whose answers must be empty, with a default engine. -/
def speechless : Dispatcher (ScriptedEngine.kind false) :=
  (ofSettings { dispatcher := { maxPayload := 0 } } ()).after [{ name := "evalScript" }]

/-- Without room for the answer an engine is made, or disposed of, and the caller is told of an
error. -/
theorem untold_lifecycle : speechless.Reachable ∧
    (speechless.activeHandles, speechless.default) = ([1], some 1) ∧
    (((dispatch { name := "createEngine" }).run speechless).1 = .error noRoom ∧
      ((dispatch { name := "createEngine" }).run speechless).2.activeHandles = [1, 2]) ∧
    ((dispatch { name := "disposeEngine", handle := some 1 }).run speechless).1 = .error noRoom ∧
      ((dispatch { name := "disposeEngine", handle := some 1 }).run speechless).2.activeHandles = [] := by
  exact ⟨⟨_, _, _, rfl⟩, by decide, ⟨by rfl, by decide⟩, by rfl, by decide⟩

end Dispatcher

end ScriptHost
