import ScriptHost.Engine.Scripted
import ScriptHost.Proofs.Dispatch.Changes
import ScriptHost.Proofs.Wire.Requests

/-! What an operation says is looked at before anything else: its name, then the size of its payload,
then what stands in the payload. An operation that fails there is answered for what it says,
whatever handle it carries and whichever engines there are, and leaves everything as it was; in
particular no engine is made for it. -/

namespace ScriptHost

variable {K : EngineKind}

namespace Dispatcher

open Dispatch Wire

variable {d : Dispatcher K} {codec : Codec} {op : Operation}

theorem ofWord?_eq_none {text : String} (unknown : ∀ name : OperationName, text ≠ name.word) :
    OperationName.ofWord? text = none := by
  refine List.find?_eq_none.mpr fun name _ same => unknown name ?_
  exact (beq_iff_eq.mp same).symm

theorem admitted_unknown (unknown : ∀ name : OperationName, op.name ≠ name.word) :
    admitted codec op = .error (.unknownOperation op.name) := by
  simp [admitted, ofWord?_eq_none unknown]

/-- An operation of this name is flawed if its payload is too large or asks for nothing that the
operation could do. -/
def Flawed (codec : Codec) (name : OperationName) (payload : List UInt8) : Prop :=
  codec.limit < payload.length ∨ ∀ request, ¬ Asks payload name request

theorem admitted_flawed {name : OperationName} (named : op.name = name.word)
    (flawed : Flawed codec name op.payload) :
    ∃ reason, admitted codec op = .error (.invalidArgument reason) := by
  unfold admitted
  rw [named, OperationName.ofWord?_word]
  dsimp only
  split
  · exact ⟨_, rfl⟩
  · rename_i small
    cases read : name.request op.payload with
    | ok request =>
      exact absurd (OperationName.request_eq_ok_iff.mp read) (flawed.resolve_left small request)
    | error e => exact ⟨e.message, congrArg Except.error (OperationName.ofCodec_of_request read)⟩

/-- An operation that is not admitted changes nothing but the log. -/
theorem dispatch_refused (consistent : d.Consistent) {e : DispatchError}
    (refused : admitted d.codec op = .error e) :
    (exec (dispatch op) d).1 = .error e ∧ (exec (dispatch op) d).2.unlogged = d.unlogged := by
  have responded : effect (dispatch op) d = (.error e, d.unlogged) := by
    rw [effect_dispatch consistent op]
    simp [respond, refused]
  exact ⟨congrArg Prod.fst responded, congrArg Prod.snd responded⟩

/-- An operation of an unknown name is answered with that name. One whose payload is beyond the limit,
or cannot be read for that operation, is an invalid argument. Neither changes anything. -/
theorem flawed_changes_nothing (reachable : d.Reachable) (op : Operation) :
    ((∀ name : OperationName, op.name ≠ name.word) →
      ((dispatch op).run d).1 = .error (.unknownOperation op.name) ∧
        ((dispatch op).run d).2.unlogged = d.unlogged) ∧
    ∀ name : OperationName, op.name = name.word → Flawed d.codec name op.payload →
      (∃ reason, ((dispatch op).run d).1 = .error (.invalidArgument reason)) ∧
        ((dispatch op).run d).2.unlogged = d.unlogged := by
  refine ⟨fun unknown => ?_, fun name named flawed => ?_⟩
  · exact dispatch_refused reachable.consistent (admitted_unknown unknown)
  · obtain ⟨reason, refused⟩ := admitted_flawed named flawed
    exact (dispatch_refused reachable.consistent refused).imp_left fun told => ⟨reason, told⟩

/-- A call without a handle whose payload is cut short makes no default engine. -/
theorem flawed_changes_nothing_short :
    (∃ reason, ((dispatch { name := "callFunction", payload := [0] }).run
      (ofSettings {} () : Dispatcher (ScriptedEngine.kind false))).1 =
        .error (.invalidArgument reason)) ∧
    ((dispatch { name := "callFunction", payload := [0] }).run
      (ofSettings {} () : Dispatcher (ScriptedEngine.kind false))).2.activeHandles = [] := by
  have flawed : Flawed (ofSettings {} () : Dispatcher (ScriptedEngine.kind false)).codec
      .callFunction [0] := by
    refine .inr fun request asks => ?_
    have read := OperationName.request_eq_ok_iff.mpr asks
    cases read
  obtain ⟨told, same⟩ := (flawed_changes_nothing (d := (ofSettings {} () : Dispatcher (ScriptedEngine.kind false)))
    ⟨{}, (), [], rfl⟩ { name := "callFunction", payload := [0] }).2 .callFunction rfl flawed
  exact ⟨told, congrArg activeHandles same⟩

end Dispatcher

end ScriptHost
