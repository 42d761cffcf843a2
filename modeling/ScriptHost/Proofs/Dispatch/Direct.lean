import ScriptHost.Proofs.Dispatch.Changes
import ScriptHost.Proofs.Dispatch.Typed
import ScriptHost.Proofs.Worker.Step

/-! Dispatching refines calling. A typed call on an active handle comes to one call of the method
itself with the caller's own arguments: the caller is told that outcome, and the table holds the
engine as that one call left it, or no longer if the outcome was fatal. -/

namespace ScriptHost

variable {K : EngineKind} {α β : Type}

namespace Dispatcher

open Dispatch Worker

variable {d : Dispatcher K}

theorem record_record (records more : List Log.Record) :
    (d.record records).record more = d.record (records ++ more) := by
  simp [record]

/-- Are these records notes of the dispatcher itself? -/
def Notes (records : List Log.Record) : Prop := ∀ r ∈ records, r.target = logTarget

/-- What becomes of an engine that was run once, logged these records and ended in this state: it
stays in its place, or is dropped if the result is fatal. The dispatcher only adds notes of its
own to the log. -/
inductive RanOnce (d : Dispatcher K) (handle : Nat) (records : List Log.Record) (final : K.Engine) :
    Except EngineError α → Dispatcher K → Prop where
  | stays {result before later} : (∀ reason, result ≠ .error (.fatal reason)) →
      Notes before → Notes later → RanOnce d handle records final result
        (((d.record before).update (.live handle final)).record (records ++ later))
  | goes {reason before later} : Notes before → Notes later →
      RanOnce d handle records final (.error (.fatal reason))
        (((d.record before).dismissed handle).record
          (records ++ farewell handle final ++ later))

namespace RanOnce

variable {handle : Nat} {records : List Log.Record} {final : K.Engine} {after : Dispatcher K}
  {result : Except EngineError α} {note : Log.Record}

theorem noted (own : note.target = logTarget)
    (once : RanOnce (d.record [note]) handle records final result after) :
    RanOnce d handle records final result after := by
  have more {before : List Log.Record} (first : Notes before) : Notes (note :: before) := by
    simpa [Notes, own] using first
  cases once with
  | stays lives first last =>
    rw [record_record]
    exact .stays lives (more first) last
  | goes first last =>
    rw [record_record]
    exact .goes (more first) last

theorem closed (own : note.target = logTarget)
    (once : RanOnce d handle records final result after) :
    RanOnce d handle records final result (after.record [note]) := by
  have more {later : List Log.Record} (last : Notes later) : Notes (later ++ [note]) := by
    simpa [Notes, or_imp, forall_and, own] using last
  cases once with
  | stays lives first last =>
    rw [record_record, List.append_assoc]
    exact .stays lives first (more last)
  | goes first last =>
    rw [record_record, List.append_assoc]
    exact .goes first (more last)

/-- It makes no difference what a value is taken for. -/
theorem of_map {f : α → β} (once : RanOnce d handle records final (result.map f) after) :
    RanOnce d handle records final result after := by
  generalize shown : result.map f = other at once
  cases once with
  | stays lives first last =>
    refine .stays (fun reason fatal => lives reason ?_) first last
    rw [← shown, fatal]
    rfl
  | goes first last =>
    cases result with
    | ok a => cases shown
    | error e =>
      cases shown
      exact .goes first last

end RanOnce

section

variable {op : Operation} {command : Command} {handle : Nat} {engine : K.Engine}

theorem run_live_fatal {reason : String}
    (fatal : resultOf command engine = .error (.fatal reason)) :
    Worker.run command (.live handle engine) = (.error (.fatal reason),
      (K.run command engine).2.1 ++ farewell handle (engineAfter command engine),
      { handle := handle, engine := none, failed := true }) := by
  rw [run_live, show (K.run command engine).1.caught "engine" = _ from fatal]
  rfl

theorem run_live_lives (lives : ∀ reason, resultOf command engine ≠ .error (.fatal reason)) :
    Worker.run command (.live handle engine) = (resultOf command engine,
      (K.run command engine).2.1, .live handle (engineAfter command engine)) := by
  rw [run_live]
  split
  · rename_i reason fatal
    exact absurd fatal (lives reason)
  · rfl

/-- Is this handle the one that an operation is for, by its name or as the default one? -/
def Means (d : Dispatcher K) (named : Option Nat) (handle : Nat) : Prop :=
  named = some handle ∨
    named = none ∧ d.settings.defaultEngine = true ∧ d.default = some handle

theorem exec_resolve_live {named : Option Nat} {worker : Worker K} (meant : d.Means named handle)
    (active : d.worker? handle = some worker) : exec (resolve named) d = (.ok worker, d) := by
  rcases meant with rfl | ⟨rfl, allowed, isDefault⟩
  · simp [resolve, active]
  · simp [resolve, allowed, isDefault, active]

/-- A command runs its engine once, and its result is what the caller is told. -/
theorem exec_runCommand_live (meant : d.Means op.handle handle)
    (active : d.worker? handle = some (.live handle engine))
    (lasts : resultOf command engine ≠ .error .terminated) :
    ∃ after, exec (runCommand op command) d = (reported d.codec (resultOf command engine), after) ∧
      RanOnce d handle (K.run command engine).2.1 (engineAfter command engine)
        (resultOf command engine) after := by
  have found := exec_resolve_live meant active
  have quiet : Notes [] := by simp [Notes]
  by_cases dies : ∃ reason, resultOf command engine = .error (.fatal reason)
  · obtain ⟨reason, fatal⟩ := dies
    have warned : Notes [⟨.warn, logTarget, "engine fatal, retiring handle",
        [("engine", toString handle), ("operation", op.name), ("error", reason)]⟩] := by
      simp [Notes]
    rw [fatal]
    refine ⟨_, ?_, .goes warned quiet⟩
    unfold runCommand
    simp only [exec_bind, found, run_live_fatal fatal, List.append_nil]
    rfl
  · have lives (reason : String) : resultOf command engine ≠ .error (.fatal reason) :=
      fun fatal => dies ⟨reason, fatal⟩
    refine ⟨_, ?_, .stays lives quiet quiet⟩
    unfold runCommand
    simp only [exec_bind, found, run_live_lives lives, List.append_nil]
    rcases result : resultOf command engine with (thrown | reason | reason | _) | value
    · rfl
    · exact absurd result (lives reason)
    · rfl
    · exact absurd result lasts
    · simp only [Bool.not_false, ↓reduceIte, exec_bind, exec_modify, exec_get, exec_liftCodec]
      rfl

theorem exec_dispatch_live (asked : admitted d.codec op = .ok (.command command))
    (meant : d.Means op.handle handle) (active : d.worker? handle = some (.live handle engine))
    (lasts : resultOf command engine ≠ .error .terminated) :
    ∃ after, exec (dispatch op) d = (reported d.codec (resultOf command engine), after) ∧
      RanOnce d handle (K.run command engine).2.1 (engineAfter command engine)
        (resultOf command engine) after := by
  obtain ⟨name, known, fits, read⟩ := admitted_eq_ok_iff.mp asked
  unfold dispatch
  simp only [known, exec_bind, exec_get, Nat.not_lt.mpr fits, ↓reduceIte, exec_note, exec_tryCatch]
  generalize begun : Log.Record.mk .debug logTarget "dispatch" _ = note
  have own : note.target = logTarget := by rw [← begun]
  obtain ⟨after, ran, once⟩ := exec_runCommand_live (d := d.record [note]) meant active lasts
  have performed : exec (perform name op) (d.record [note]) =
      (reported d.codec (resultOf command engine), after) := by
    simp only [perform, exec_bind, exec_liftCodec, read, Except.mapError]
    exact ran
  rw [performed]
  cases reported d.codec (resultOf command engine) with
  | ok bytes => exact ⟨after, rfl, once.noted own⟩
  | error e => exact ⟨_, rfl, (once.noted own).closed rfl⟩

/-- An operation whose payload cannot be read changes nothing but the log. -/
theorem exec_dispatch_unread {name : OperationName} {error : CodecError}
    (known : OperationName.ofWord? op.name = some name)
    (fits : op.payload.length ≤ d.codec.limit) (unread : name.request op.payload = .error error) :
    ∃ notes, Notes notes ∧ exec (dispatch op) d = (.error (.ofCodec error), d.record notes) := by
  unfold dispatch
  simp only [known, exec_bind, exec_get, Nat.not_lt.mpr fits, ↓reduceIte, exec_note, exec_tryCatch,
    perform, exec_liftCodec, unread, Except.mapError, exec_throw, record_record]
  exact ⟨_, by simp [Notes], rfl⟩

end

/-- A typed call on an active handle calls the method once, with the arguments of the call. The
caller is told its result, a panic being a fatal error, and the engine goes on as the method left
it unless the result is fatal. -/
theorem typed_call_refines {m : Methods K.Engine} (runs : K.Runs m) (reachable : d.Reachable)
    {handle : Nat} (active : handle ∈ d.activeHandles) (call : TypedCall α) (plain : call.Plain)
    (fits : call.Fits d.codec) :
    ∃ engine, d.worker? handle = some (.live handle engine) ∧
      ∀ outcome records final, call.direct m engine = (outcome, records, final) →
        outcome ≠ .error .terminated → (∀ a, outcome = .value a → call.Tellable d.codec a) →
        ((call.through (some handle)).run d).1 = (outcome.caught "engine").mapError .ofEngine ∧
        RanOnce d handle records final (outcome.caught "engine")
          ((call.through (some handle)).run d).2 := by
  obtain ⟨engine, held⟩ := live_of_active reachable.consistent active
  refine ⟨engine, held, fun outcome records final performed lasts tellable => ?_⟩
  obtain ⟨bytes, written, small⟩ := fits
  have ran : K.run call.command engine = (outcome.map call.shown, records, final) := by
    rw [TypedCall.run_command runs, performed]
    rfl
  have result : resultOf call.command engine = (outcome.caught "engine").map call.shown := by
    rw [resultOf, ran]
    cases outcome <;> rfl
  have survives : resultOf call.command engine ≠ .error .terminated := by
    rw [result]
    cases outcome with
    | error e => simpa [Outcome.caught, Except.map] using lasts
    | _ => simp [Outcome.caught, Except.map]
  have asked := TypedCall.admitted_call plain written small (some handle)
  obtain ⟨after, answered, once⟩ := exec_dispatch_live asked (.inl rfl) held survives
  rw [ran, result] at once
  rw [engineAfter, ran] at once
  have told : exec (call.through (some handle)) d =
      ((outcome.caught "engine").mapError .ofEngine, after) := by
    rw [TypedCall.exec_through written, answered, result]
    cases outcome with
    | value a =>
      obtain ⟨answer, shown, taken⟩ := TypedCall.readable_shown (tellable a rfl)
      simp only [Outcome.caught, Except.map, shown, taken, Except.mapError]
    | error e => rfl
    | panicked p => rfl
  exact ⟨congrArg Prod.fst told, congrArg Prod.snd told ▸ once.of_map⟩

/-- A function that echoes its arguments, called on an engine that was made before. -/
theorem typed_call_refines_echo :
    (((TypedCall.callFunction ⟨.path "echo", [.string "a", .null]⟩).through (some 1)).run
      ((ofSettings {} () : Dispatcher (ScriptedEngine.kind false)).after
        [{ name := "createEngine" }])).1 = .ok (.array [.string "a", .null]) := by
  have active : 1 ∈ ((ofSettings {} () : Dispatcher (ScriptedEngine.kind false)).after
      [{ name := "createEngine" }]).activeHandles := by decide
  obtain ⟨engine, -, refines⟩ := typed_call_refines (ScriptedEngine.runs_methods false)
    ⟨{}, (), [{ name := "createEngine" }], rfl⟩ active
    (.callFunction ⟨.path "echo", [.string "a", .null]⟩) ⟨trivial, trivial, trivial⟩
    ⟨_, rfl, by decide⟩
  refine (refines (.value (.array [.string "a", .null])) [] engine rfl (by simp) ?_).1
  rintro a ⟨rfl⟩
  exact ⟨⟨trivial, trivial, trivial⟩, by decide, trivial⟩

end Dispatcher

end ScriptHost
