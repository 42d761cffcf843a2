import ScriptHost.Engine.Scripted
import ScriptHost.Proofs.Dispatch.Changes

/-! Handles are given to engines in the order of creation and never twice, neither by
`createEngine` nor for the default engine. A handle that was given and is not active will
not be active again, and every operation that carries one is refused and changes nothing. -/

namespace ScriptHost

variable {K : EngineKind}

namespace Dispatcher

open Dispatch

variable {d : Dispatcher K}

/-- A handle that was given and is not active stays so. -/
theorem gone_stays_gone (consistent : d.Consistent) (ops : List Operation) {handle : Nat}
    (given : handle ∈ d.created) (gone : handle ∉ d.activeHandles) :
    handle ∉ (d.after ops).activeHandles := by
  intro active
  rcases (after_advance consistent ops).active_new handle active with active | later
  · exact gone active
  · exact absurd (consistent.created_below handle given).2 (Nat.not_lt.mpr later)

theorem request_create {name : OperationName} {payload : List UInt8} {options : EngineOptions} :
    name.request payload = .ok (.create options) → name = .createEngine := by
  cases name <;> simp [OperationName.request, bind, Except.bind, pure, Except.pure] <;> split <;>
    simp

theorem word_of_ofWord? {text : String} {name : OperationName}
    (known : OperationName.ofWord? text = some name) : name.word = text := by
  simpa using List.find?_some known

theorem admitted_create {codec : Codec} {op : Operation} {options : EngineOptions}
    (asked : admitted codec op = .ok (.create options)) :
    op.name = OperationName.createEngine.word := by
  obtain ⟨name, known, -, read⟩ := admitted_eq_ok_iff.mp asked
  rw [← word_of_ofWord? known, request_create read]

theorem admitted_of_create {codec : Codec} {op : Operation} {request : Request}
    (asked : admitted codec op = .ok request) (named : op.name = OperationName.createEngine.word) :
    ∃ options, request = .create options := by
  have isCreate : OperationName.ofWord? op.name = some .createEngine := by rw [named]; rfl
  obtain ⟨name, known, -, read⟩ := admitted_eq_ok_iff.mp asked
  obtain rfl : name = .createEngine := Option.some.inj (known.symm.trans isCreate)
  simp only [OperationName.request] at read
  rcases decoded : Codec.decodeOptions op.payload with e | options
  · simp [decoded, bind, Except.bind] at read
  · exact ⟨options, by simpa [decoded, bind, Except.bind, pure, Except.pure, eq_comm] using read⟩

theorem carried_created (command : Command) (handle : Nat) (engine : K.Engine)
    (d : Dispatcher K) : (d.carried command (.live handle engine)).2.created = d.created := by
  obtain ⟨e, shape⟩ | ⟨answer, final, shape⟩ := carried_cases command handle engine d <;>
    rw [shape] <;> rfl

/-- A command leaves the default engine in its role unless it ended it. -/
theorem carried_default (command : Command) (handle : Nat) (engine : K.Engine)
    (d : Dispatcher K) :
    (d.carried command (.live handle engine)).2.default = d.default ∨
      handle ∉ (d.carried command (.live handle engine)).2.activeHandles := by
  obtain ⟨e, shape⟩ | ⟨answer, final, shape⟩ := carried_cases command handle engine d <;> rw [shape]
  · exact .inr (not_active_dismissed handle)
  · exact .inl rfl

/-- The engine that an operation made, if it made one, has the next handle. It is the one that
`createEngine` asked for, or it became the default engine. -/
structure Gives (d : Dispatcher K) (handle : Option Nat) (request : Request)
    (after : Dispatcher K) : Prop where
  created : after.created = d.next :: d.created
  role : (∃ options, request = .create options) ∨
    handle = none ∧ (after.default = some d.next ∨ d.next ∉ after.activeHandles)

theorem answered_gives (consistent : d.Consistent) (handle : Option Nat) (request : Request) :
    (d.answered handle request).2.created = d.created ∨
      Gives d handle request (d.answered handle request).2 := by
  unfold answered
  cases request with
  | create options =>
    obtain ⟨e, plan, shape⟩ | ⟨engine, plan, shape⟩ :=
      made_cases (d.limits.withOptions options) d <;>
      simp only [shape]
    · exact .inl rfl
    · exact .inr ⟨rfl, .inl ⟨options, rfl⟩⟩
  | dispose =>
    refine .inl ?_
    cases handle with
    | none => rfl
    | some handle =>
      cases found : d.worker? handle with
      | none => simp only [found]
      | some key =>
        simp only [found]
        rfl
  | command command =>
    obtain ⟨e, shape⟩ | ⟨key, engine, -, shape⟩ | ⟨e, plan, -, shape⟩ |
        ⟨engine, plan, free, shape⟩ :=
      resolved_cases consistent handle <;> simp only [shape]
    · exact .inl trivial
    · exact .inl (carried_created command key engine d)
    · exact .inl rfl
    · refine .inr ⟨carried_created command d.next engine _, .inr ⟨free, ?_⟩⟩
      exact carried_default command d.next engine _

theorem respond_gives (consistent : d.Consistent) (op : Operation) :
    (d.respond op).2.created = d.created ∨ (d.respond op).2.created = d.next :: d.created ∧
      (op.name = OperationName.createEngine.word ∨ op.handle = none ∧
        ((d.respond op).2.default = some d.next ∨ d.next ∉ (d.respond op).2.activeHandles)) := by
  unfold respond
  cases asked : admitted d.codec op with
  | error e => exact .inl rfl
  | ok request =>
    refine (answered_gives consistent op.handle request).imp id fun ⟨created, role⟩ => ?_
    refine ⟨created, role.imp_left ?_⟩
    rintro ⟨options, rfl⟩
    exact admitted_create asked

theorem reported_ok {codec : Codec} {value : Datum} {bytes : List UInt8}
    (told : reported codec (.ok value) = .ok bytes) : bytes = Wire.write value := by
  simp only [reported, Codec.encode] at told
  split at told
  · simpa [Except.mapError] using told.symm
  · cases told

theorem respond_createEngine {op : Operation} {bytes : List UInt8}
    (named : op.name = OperationName.createEngine.word) (told : (d.respond op).1 = .ok bytes) :
    bytes = Wire.write (Datum.int (Int64.ofNat d.next)) ∧
      (d.respond op).2.created = d.next :: d.created ∧
      d.next ∈ (d.respond op).2.activeHandles := by
  unfold respond at told ⊢
  cases asked : admitted d.codec op with
  | error e => simp [asked] at told
  | ok request =>
    obtain ⟨options, rfl⟩ := admitted_of_create asked named
    simp only [asked, answered] at told ⊢
    obtain ⟨e, plan, shape⟩ | ⟨engine, plan, shape⟩ :=
      made_cases (d.limits.withOptions options) d <;> simp only [shape] at told ⊢
    · cases told
    · exact ⟨reported_ok told, rfl, by simp [activeHandles_joined]⟩

theorem respond_stale {op : Operation} {request : Request} {handle : Nat}
    (asked : admitted d.codec op = .ok request) (other : op.name ≠ OperationName.createEngine.word)
    (named : op.handle = some handle) (stale : handle ∉ d.activeHandles) :
    d.respond op = (.error (notActive handle), d) := by
  have missing : d.worker? handle = none := (worker?_eq_none_iff handle).mpr stale
  unfold respond
  rw [asked, named]
  cases request with
  | create options => exact absurd (admitted_create asked) other
  | dispose => simp only [answered, missing]
  | command command => simp only [answered, resolved, missing]

/-- The number of attempts to make an engine. -/
def attempts (d : Dispatcher K) : Nat := d.next - 1

/-- The handles given so far: positive, in the order of creation, and not active again once
they ceased to be. -/
structure GivenInOrder (d : Dispatcher K) : Prop where
  positive : ∀ handle ∈ d.created, 0 < handle
  increasing : d.created.reverse.Pairwise (· < ·)
  active_given : ∀ handle ∈ d.activeHandles, handle ∈ d.created
  gone : ∀ more, ∀ handle ∈ d.created, handle ∉ d.activeHandles →
    handle ∉ (d.after more).activeHandles

/-- How an operation treats handles. Whatever it makes gets the next one, and so do engines
nobody asked for, which become the default engine. A handle that is not active is refused, and
everything stays as it was. -/
structure HandlesKept (d : Dispatcher K) (op : Operation)
    (answer : Except DispatchError (List UInt8)) (after : Dispatcher K) : Prop where
  given : after.created = d.created ∨ after.created = d.next :: d.created ∧
    (op.name = OperationName.createEngine.word ∨
      op.handle = none ∧ (after.default = some d.next ∨ d.next ∉ after.activeHandles))
  told : op.name = OperationName.createEngine.word → after.attempts < 2 ^ 63 →
    ∀ bytes, answer = .ok bytes → ∃ handle : Int64, handle.toInt = d.next ∧
      bytes = Wire.write (Datum.int handle) ∧
      after.created = d.next :: d.created ∧ d.next ∈ after.activeHandles
  refused : ∀ request handle, admitted d.codec op = .ok request →
    op.name ≠ OperationName.createEngine.word → op.handle = some handle →
    handle ∉ d.activeHandles →
    answer = .error (notActive handle) ∧ after.unlogged = d.unlogged

theorem Consistent.givenInOrder (consistent : d.Consistent) : d.GivenInOrder where
  positive handle given := (consistent.created_below handle given).1
  increasing := List.pairwise_reverse.mpr consistent.created_ordered
  active_given := consistent.active_created
  gone more _ := gone_stays_gone consistent more

theorem Consistent.handlesKept (consistent : d.Consistent) (op : Operation) :
    d.HandlesKept op (exec (dispatch op) d).1 (exec (dispatch op) d).2 := by
  rcases ran : exec (dispatch op) d with ⟨answer, after⟩
  have bare : d.unlogged.Consistent := consistent_unlogged.mpr consistent
  have responded : d.unlogged.respond op = (answer, after.unlogged) := by
    rw [← effect_dispatch consistent op, effect_of_exec ran]
  refine ⟨?_, ?_, ?_⟩
  · have gives := respond_gives bare op
    rw [responded] at gives
    exact gives
  · rintro named few bytes rfl
    have succeeded : (d.unlogged.respond op).1 = .ok bytes := by rw [responded]
    have told := respond_createEngine named succeeded
    rw [responded] at told
    obtain ⟨written, given, active⟩ := told
    have next : after.Consistent := by
      have kept := dispatch_consistent consistent op
      rwa [ran] at kept
    have below : d.next < after.next := (next.active_below active).2
    have small : d.next < 2 ^ 63 := by
      simp only [attempts] at few
      omega
    exact ⟨.ofNat d.next, Int64.toInt_ofNat_of_lt small, written, given, active⟩
  · intro request handle asked other named stale
    rw [respond_stale (d := d.unlogged) asked other named stale] at responded
    exact ⟨(Prod.mk.inj responded).1.symm, (Prod.mk.inj responded).2.symm⟩

/-- Handles are given once, in the order of creation, however operations follow one another
and whatever the engines do. -/
theorem handles_given_once (settings : Settings) (plan : K.Plan) (ops : List Operation) :
    ((ofSettings settings plan : Dispatcher K).after ops).GivenInOrder ∧
    ∀ op, ((ofSettings settings plan : Dispatcher K).after ops).HandlesKept op
      ((dispatch op).run ((ofSettings settings plan).after ops)).1
      ((dispatch op).run ((ofSettings settings plan).after ops)).2 := by
  have consistent : ((ofSettings settings plan : Dispatcher K).after ops).Consistent :=
    after_consistent (ofSettings_consistent settings plan) ops
  exact ⟨consistent.givenInOrder, consistent.handlesKept⟩

/-- The handle of a disposed engine is refused. -/
theorem handles_given_once_disposed :
    ((dispatch { name := "disposeEngine", handle := some 1 }).run
      ((ofSettings {} () : Dispatcher (ScriptedEngine.kind false)).after
        [{ name := "createEngine" }, { name := "disposeEngine", handle := some 1 }])).1 =
      .error (notActive 1) := by
  have kept := (handles_given_once (K := ScriptedEngine.kind false) {} ()
    [{ name := "createEngine" }, { name := "disposeEngine", handle := some 1 }]).2
      { name := "disposeEngine", handle := some 1 }
  exact (kept.refused .dispose 1 (by rfl) (by decide) rfl (by decide)).1

end Dispatcher

end ScriptHost
