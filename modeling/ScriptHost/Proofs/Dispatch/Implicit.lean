import ScriptHost.Proofs.Dispatch.Lifecycle
import ScriptHost.Proofs.Dispatch.Retiring

/-! Commands without a handle. One that finds a default engine is the same command with that engine's
handle. One that finds none is a creation without options and then the command with the new handle:
the two are answered alike, and all that sets them apart afterwards is that the new engine is known
as the default one, unless the command was fatal to it. -/

namespace ScriptHost

variable {K : EngineKind}

/-- The operation with a handle. -/
def Operation.on (op : Operation) (handle : Nat) : Operation := { op with handle := some handle }

namespace Dispatcher

open Dispatch

variable {d : Dispatcher K} {op : Operation} {command : Command}

/-- A creation that leaves all limits as they are configured. -/
def creation : Operation := { name := OperationName.createEngine.word }

/-- The state in which the engine of a handle is the default one. -/
def elected (handle : Nat) (d : Dispatcher K) : Dispatcher K := { d with default := some handle }

/-- The outcome of a command once the engine it was carried out on is known as the default one. A fatal
command leaves no engine to be known. -/
def adopted (handle : Nat) : Except DispatchError (List UInt8) × Dispatcher K →
    Except DispatchError (List UInt8) × Dispatcher K
  | (.error (.engineFatal reason), after) => (.error (.engineFatal reason), after)
  | (answer, after) => (answer, after.elected handle)

theorem adopted_of_harmless {answer : Except DispatchError (List UInt8)}
    (harmless : ∀ reason, answer ≠ .error (.engineFatal reason)) (handle : Nat)
    (after : Dispatcher K) : adopted handle (answer, after) = (answer, after.elected handle) := by
  unfold adopted
  split
  · rename_i reason _ same
    exact absurd (congrArg Prod.fst same) (harmless reason)
  · rename_i same
    cases same
    rfl

theorem admitted_on (codec : Codec) (op : Operation) (handle : Nat) :
    admitted codec (op.on handle) = admitted codec op := rfl

/-! ### With a default engine -/

theorem resolved_default (allowed : d.settings.defaultEngine = true) {handle : Nat}
    (isDefault : d.default = some handle) (active : (d.worker? handle).isSome) :
    d.resolved none = d.resolved (some handle) := by
  obtain ⟨worker, held⟩ := Option.isSome_iff_exists.mp active
  simp only [resolved, allowed, isDefault, Option.bind_some, held, ↓reduceIte]

theorem respond_default (consistent : d.Consistent) (allowed : d.settings.defaultEngine = true)
    (asked : admitted d.codec op = .ok (.command command)) (unnamed : op.handle = none)
    {handle : Nat} (isDefault : d.default = some handle) :
    d.respond op = d.respond (op.on handle) := by
  have active := (worker?_isSome_iff handle).mpr (consistent.default_active handle isDefault)
  have same : d.resolved op.handle = d.resolved (op.on handle).handle := by
    rw [unnamed]
    exact resolved_default allowed isDefault active
  simp only [respond, admitted_on, asked, answered, same]

/-! ### Without one -/

/-- To be the default engine makes a difference to a command only in what is recorded afterwards. -/
theorem carried_elected (command : Command) (handle : Nat) (engine : K.Engine)
    (free : d.default = none) : (d.elected handle).carried command (.live handle engine) =
      adopted handle (d.carried command (.live handle engine)) := by
  have gone : (d.elected handle).dismissed handle = d.dismissed handle := by
    simp [dismissed, remove, elected, free]
  rw [carried_live, carried_live]
  rcases Worker.resultOf command engine with (thrown | reason | reason | _) | value
  · rfl
  · exact congrArg (Prod.mk _) gone
  · rfl
  · exact congrArg (Prod.mk _) gone
  · have harmless (reason : String) : reported d.codec (.ok value) ≠ .error (.engineFatal reason) := by
      intro fatal
      cases reported_fatal fatal
    exact (adopted_of_harmless harmless handle (d.update _)).symm

theorem respond_creation (d : Dispatcher K) :
    d.respond creation = match d.made d.limits with
      | (.ok worker, after) => (reported after.codec (.ok (.int (Int64.ofNat worker.handle))), after)
      | (.error e, after) => (.error e, after) := by
  have asked : admitted d.codec creation = .ok (.create {}) := by
    simp [admitted, creation, OperationName.ofWord?_word, OperationName.request, Codec.decodeOptions,
      Except.mapError, bind, Except.bind, pure, Except.pure]
  have same : d.limits.withOptions {} = d.limits := rfl
  rcases made : d.made d.limits with ⟨_ | _, _⟩ <;>
    simp only [respond, asked, answered, same, made]

/-- A command that finds no default engine. -/
theorem respond_undefaulted (allowed : d.settings.defaultEngine = true)
    (asked : admitted d.codec op = .ok (.command command)) (unnamed : op.handle = none)
    (free : d.default = none) : d.respond op = match d.made d.limits with
      | (.ok worker, after) => (after.elected worker.handle).carried command worker
      | (.error e, after) => (.error e, after) := by
  rcases made : d.made d.limits with ⟨_ | _, _⟩ <;>
    simp only [respond, asked, answered, resolved, elected, unnamed, allowed, free, made,
      Option.bind_none, ↓reduceIte]

/-- Ten bytes are room for any handle. -/
theorem reported_handle {codec : Codec} (room : 10 ≤ codec.limit) (handle : Nat) :
    reported codec (.ok (.int (Int64.ofNat handle))) =
      .ok (Wire.write (Datum.int (Int64.ofNat handle))) := by
  have fits := Nat.le_trans (length_write_int_le (Int64.ofNat handle)) room
  simp only [reported, Codec.encode, fits, ↓reduceIte, Except.mapError]

/-- A new engine can be told of, when there is room for ten bytes. -/
theorem respond_creation_told (consistent : d.Consistent) (room : 10 ≤ d.codec.limit) :
    (∃ e after, d.made d.limits = (.error e, after) ∧ d.respond creation = (.error e, after)) ∨
    ∃ engine after, d.made d.limits = (.ok (.live d.next engine), after) ∧
      d.respond creation = (.ok (Wire.write (Datum.int (Int64.ofNat d.next))), after) ∧
      after.worker? d.next = some (.live d.next engine) ∧ after.default = d.default ∧
      after.codec = d.codec ∧ after.activeHandles = d.activeHandles ++ [d.next] := by
  rw [respond_creation]
  obtain ⟨e, plan, made⟩ | ⟨engine, plan, made⟩ := made_cases d.limits d
  · exact .inl ⟨e, _, made, by rw [made]⟩
  · refine .inr ⟨engine, _, made, ?_, worker?_joined consistent _ plan, rfl, rfl,
      activeHandles_joined _ plan⟩
    rw [made]
    exact congrArg (Prod.mk · _) (reported_handle room d.next)

/-- A command without a handle is answered, and leaves the engines, as if its caller had given the handle:
that of the default engine if there is one, and otherwise that of a new engine, made with an operation
of its own. What is left differs only in that the new engine is recorded as the default one, unless
the command was fatal. -/
theorem default_made_explicit (reachable : d.Reachable) (allowed : d.settings.defaultEngine = true)
    (room : 10 ≤ d.codec.limit) (asked : admitted d.codec op = .ok (.command command))
    (unnamed : op.handle = none) :
    (∀ handle, d.default = some handle →
      effect (dispatch op) d = effect (dispatch (op.on handle)) d) ∧
    (d.default = none → match (dispatch creation).run d with
      | (.error e, after) => effect (dispatch op) d = (.error e, after.unlogged)
      | (.ok bytes, after) =>
        (bytes = Wire.write (Datum.int (Int64.ofNat d.next)) ∧
          after.activeHandles = d.activeHandles ++ [d.next]) ∧
        effect (dispatch op) d = adopted d.next (effect (dispatch (op.on d.next)) after)) := by
  have consistent := reachable.consistent
  have bare : d.unlogged.Consistent := consistent_unlogged.mpr consistent
  refine ⟨fun handle isDefault => ?_, fun free => ?_⟩
  · rw [effect_dispatch consistent, effect_dispatch consistent]
    exact respond_default bare allowed asked unnamed isDefault
  · have lazily := respond_undefaulted (d := d.unlogged) allowed asked unnamed free
    rw [← effect_dispatch consistent] at lazily
    have kept : (exec (dispatch creation) d).2.Consistent := dispatch_consistent consistent creation
    have created : effect (dispatch creation) d = d.unlogged.respond creation :=
      effect_dispatch consistent creation
    change match exec (dispatch creation) d with
      | (.error e, after) => effect (dispatch op) d = (.error e, after.unlogged)
      | (.ok bytes, after) => _
    rcases ran : exec (dispatch creation) d with ⟨answer, after⟩
    rw [ran] at kept
    rw [effect_of_exec ran] at created
    obtain ⟨e, failed, made, told⟩ | ⟨engine, joined, made, told, held, role, same, active⟩ :=
      respond_creation_told bare room <;>
      rw [told] at created <;>
      obtain ⟨rfl, rfl⟩ := Prod.mk.inj created <;>
      simp only [made] at lazily
    · exact lazily
    · refine ⟨⟨rfl, active⟩, ?_⟩
      have again : admitted after.unlogged.codec (op.on d.next) = .ok (.command command) := by
        rw [same]
        exact asked
      have held : after.unlogged.worker? d.next = some (.live d.next engine) := held
      have found : after.unlogged.resolved (op.on d.next).handle =
          (.ok (.live d.next engine), after.unlogged) := by
        simp only [Operation.on, resolved, held]
      rw [lazily, effect_dispatch kept, respond_command again found]
      exact carried_elected command d.next engine (role.trans free)

/-- The first command of all has no handle and is fatal: afterwards there is no default engine, as after
the same command on an engine made for it. -/
theorem default_made_explicit_fatal :
    effect (dispatch { name := "evalScript", payload := Utf8.encode "fatal" })
      (ofSettings {} () : Dispatcher (ScriptedEngine.kind false)) =
    effect (dispatch { name := "evalScript", handle := some 1, payload := Utf8.encode "fatal" })
      ((ofSettings {} () : Dispatcher (ScriptedEngine.kind false)).after [creation]) ∧
    (effect (dispatch { name := "evalScript", payload := Utf8.encode "fatal" })
      (ofSettings {} () : Dispatcher (ScriptedEngine.kind false))).2.default = none := by
  have reachable : (ofSettings {} () : Dispatcher (ScriptedEngine.kind false)).Reachable :=
    ⟨{}, (), [], rfl⟩
  have asked : admitted (ofSettings {} () : Dispatcher (ScriptedEngine.kind false)).codec
      { name := "evalScript", payload := Utf8.encode "fatal" } =
        .ok (.command (.eval ⟨"fatal", none, false, none⟩)) := by rfl
  have explicit := (default_made_explicit reachable rfl (by decide) asked rfl).2 rfl
  exact ⟨explicit.2, by rfl⟩

end Dispatcher

end ScriptHost
