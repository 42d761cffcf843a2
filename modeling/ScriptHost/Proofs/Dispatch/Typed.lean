import ScriptHost.Dispatch.Typed
import ScriptHost.Engine.Scripted
import ScriptHost.Proofs.Dispatch.Respond
import ScriptHost.Proofs.Wire.Requests
import ScriptHost.Proofs.Wire.Script

/-! Typed calls and the methods of an engine that they stand for. The arguments of a call arrive
at the engine unchanged, and a result arrives at the caller unchanged, whichever of the payload
forms each of them travels in. -/

namespace ScriptHost

variable {K : EngineKind} {Engine α β : Type}

def Outcome.map (f : α → β) : Outcome α → Outcome β
  | .value a => .value (f a)
  | .error e => .error e
  | .panicked p => .panicked p

/-- What a method gives: the outcome, what it logs, and the engine after. -/
abbrev Performed (Engine α : Type) := Outcome α × List Log.Record × Engine

def Performed.map (f : α → β) (p : Performed Engine α) : Performed Engine β := (p.1.map f, p.2)

/-- The methods of an engine. -/
structure Methods (Engine : Type) where
  eval : EvalRequest → Engine → Performed Engine Datum
  call : FunctionRef → List Datum → Engine → Performed Engine Datum
  setGlobal : String → Datum → Engine → Performed Engine Unit
  getGlobal : String → Engine → Performed Engine Datum
  /-- Was the function known? -/
  release : UInt64 → Engine → Performed Engine Bool
  /-- The number of jobs that were run. -/
  runJobs : Engine → Performed Engine Nat

/-- A command is a call of one of the methods. -/
def Methods.run (m : Methods Engine) : Command → Engine → Performed Engine Datum
  | .eval request, e => m.eval request e
  | .call request, e => m.call request.function request.args e
  | .setGlobal a, e => (m.setGlobal a.name a.value e).map fun _ => .undefined
  | .getGlobal name, e => m.getGlobal name e
  | .release id, e => (m.release id e).map .bool
  | .runJobs, e => (m.runJobs e).map fun count => .int (Int64.ofNat count)

/-- Do the engines of this kind have these methods? -/
def EngineKind.Runs (K : EngineKind) (m : Methods K.Engine) : Prop :=
  ∀ command engine, K.run command engine = m.run command engine

namespace ScriptedEngine

/-- The methods of the engine for trials. -/
def methods : Methods ScriptedEngine where
  eval request e := ((e.eval request.source).1, [], (e.eval request.source).2)
  call function args e := match function with
    | .path "echo" => (.value (.array args), [], e)
    | _ => (.error (.exception { message := "not a function" }), [], e)
  setGlobal name value e := (.value (), [], { e with globals := e.globals.insert name value })
  getGlobal name e := (.value ((e.globals.get? name).getD .undefined), [], e)
  release _ e := (.value false, [], e)
  runJobs e := (.value 0, [], e)

theorem runs_methods (failing : Bool) : (kind failing).Runs methods := by
  intro command engine
  cases command with
  | call request =>
    obtain ⟨path | key, args⟩ := request
    · by_cases echo : path = "echo"
      · subst echo
        rfl
      · simp [kind, Methods.run, methods, run, echo]
    · rfl
  | _ => rfl

end ScriptedEngine

theorem Datum.asNat?_ofNat {count : Nat} (small : count < 2 ^ 63) :
    asNat? (.int (Int64.ofNat count)) = some count := by
  have same : (Int64.ofNat count).toInt = count := Int64.toInt_ofNat_of_lt small
  simp only [asNat?, asInt?, Option.bind_some, same, Int.natCast_nonneg, ↓reduceIte,
    Int.toNat_natCast]

namespace Dispatcher

open Dispatch

/-- The datum that an operation answered with. -/
def readable (answer : List UInt8) : Except DispatchError Datum :=
  (Codec.decode answer).mapError fun e => .internal e.message

theorem exec_readValue (answer : List UInt8) (d : Dispatcher K) :
    exec (readValue answer) d = (readable answer, d) := by
  unfold readValue readable
  cases (Codec.decode answer : Except CodecError Datum) <;> rfl

theorem exec_dispatchValue (op : Operation) (d : Dispatcher K) :
    exec (dispatchValue op) d = match exec (dispatch op) d with
      | (.ok answer, after) => (readable answer, after)
      | (.error e, after) => (.error e, after) := by
  simp only [dispatchValue, exec_bind, exec_readValue]
  rcases exec (dispatch op) d with ⟨_ | _, _⟩ <;> rfl

/-- Writing a payload leaves no trace. -/
theorem exec_writing {rest : List UInt8 → Dispatch K α} {d : Dispatcher K} {bytes : List UInt8}
    (encode : Codec → Except CodecError (List UInt8)) (written : encode d.codec = .ok bytes) :
    exec (do rest (← liftCodec (encode (← get).codec))) d = exec (rest bytes) d := by
  simp [exec_liftCodec, written, Except.mapError]

theorem exec_unwritten {rest : List UInt8 → Dispatch K α} {d : Dispatcher K} {error : CodecError}
    (encode : Codec → Except CodecError (List UInt8)) (failed : encode d.codec = .error error) :
    exec (do rest (← liftCodec (encode (← get).codec))) d = (.error (.ofCodec error), d) := by
  simp [exec_liftCodec, failed, Except.mapError]

/-- Dispatching an operation and taking its answer for a result. -/
theorem exec_taking {taken : Datum → Except DispatchError α} {take : Datum → Dispatch K α}
    {d : Dispatcher K} (takes : ∀ value after, exec (take value) after = (taken value, after))
    (op : Operation) : exec (dispatchValue op >>= take) d = match exec (dispatch op) d with
      | (.ok answer, after) => (readable answer >>= taken, after)
      | (.error e, after) => (.error e, after) := by
  rw [exec_bind, exec_dispatchValue]
  rcases exec (dispatch op) d with ⟨e | answer, after⟩
  · rfl
  · rcases decoded : readable answer with e | value
    · simp [decoded, bind, Except.bind]
    · simp [decoded, takes, bind, Except.bind]

end Dispatcher

/-- A call with typed arguments, and the type of its result. -/
inductive TypedCall : Type → Type where
  | evalScript (source : String) : TypedCall Datum
  | evalRequest (request : EvalRequest) : TypedCall Datum
  | callFunction (request : CallRequest) : TypedCall Datum
  | setGlobal (assignment : GlobalAssignment) : TypedCall Unit
  | getGlobal (name : String) : TypedCall Datum
  | releaseFunction (id : UInt64) : TypedCall Bool
  | executePendingJobs : TypedCall Nat

namespace TypedCall

open Dispatcher Dispatch Wire

/-- The call as a method of the engine itself. -/
def direct (m : Methods Engine) : TypedCall α → Engine → Performed Engine α
  | evalScript source => m.eval ⟨source, none, false, none⟩
  | evalRequest request => m.eval request
  | callFunction request => m.call request.function request.args
  | setGlobal a => m.setGlobal a.name a.value
  | getGlobal name => m.getGlobal name
  | releaseFunction id => m.release id
  | executePendingJobs => m.runJobs

/-- The call as the dispatcher offers it. -/
def through : TypedCall α → Option Nat → Dispatch K α
  | evalScript source, handle => Dispatcher.evalScript handle source
  | evalRequest request, handle => Dispatcher.evalRequest handle request
  | callFunction request, handle => Dispatcher.callFunction handle request
  | setGlobal a, handle => Dispatcher.setGlobal handle a
  | getGlobal name, handle => Dispatcher.getGlobal handle name
  | releaseFunction id, handle => Dispatcher.releaseFunction handle id
  | executePendingJobs, handle => Dispatcher.executePendingJobs handle

def operation : TypedCall α → OperationName
  | evalScript _ | evalRequest _ => .evalScript
  | callFunction _ => .callFunction
  | setGlobal _ => .setGlobal
  | getGlobal _ => .getGlobal
  | releaseFunction _ => .releaseFunction
  | executePendingJobs => .executePendingJobs

/-- No typed call asks for an engine. -/
theorem operation_ne (call : TypedCall α) : call.operation ≠ .createEngine := by
  cases call <;> exact OperationName.noConfusion

def command : TypedCall α → Command
  | evalScript source => .eval ⟨source, none, false, none⟩
  | evalRequest request => .eval request
  | callFunction request => .call request
  | setGlobal a => .setGlobal a
  | getGlobal name => .getGlobal name
  | releaseFunction id => .release id
  | executePendingJobs => .runJobs

def payload (codec : Codec) : TypedCall α → Except CodecError (List UInt8)
  | evalScript source => .ok (Utf8.encode source)
  | evalRequest request => codec.encodeEval request
  | callFunction request => codec.encode request
  | setGlobal a => codec.encode a
  | getGlobal name => .ok (Utf8.encode name)
  | releaseFunction id => codec.encode id
  | executePendingJobs => .ok []

/-- The datum that a result travels as. -/
def shown : TypedCall α → α → Datum
  | evalScript _, value | evalRequest _, value | callFunction _, value | getGlobal _, value => value
  | setGlobal _, _ => .undefined
  | releaseFunction _, known => .bool known
  | executePendingJobs, count => .int (Int64.ofNat count)

/-- The result that a datum is taken for. -/
def taken : TypedCall α → Datum → Except DispatchError α
  | evalScript _, value | evalRequest _, value | callFunction _, value | getGlobal _, value =>
    .ok value
  | setGlobal _, _ => .ok ()
  | releaseFunction _, value => match value.asBool? with
    | some known => .ok known
    | none => .error (unexpected .releaseFunction value)
  | executePendingJobs, value => match value.asNat? with
    | some count => .ok count
    | none => .error (unexpected .executePendingJobs value)

/-- Does the payload fit the limit? -/
def Fits (codec : Codec) (call : TypedCall α) : Prop :=
  ∃ bytes, call.payload codec = .ok bytes ∧ bytes.length ≤ codec.limit

/-- A script without options does not begin with NUL. Of data it is only said that their objects
are well-formed. -/
def Plain : TypedCall α → Prop
  | evalScript source => source.toList.head? ≠ some '\x00'
  | evalRequest r => r.hasOptions = false → r.source.toList.head? ≠ some '\x00'
  | callFunction r => Datum.OrderedItems r.args
  | setGlobal a => a.value.Ordered
  | getGlobal _ | releaseFunction _ | executePendingJobs => True

/-- Counts are given as signed integers. -/
def Counted : TypedCall α → α → Prop
  | executePendingJobs, count => count < 2 ^ 63
  | _, _ => True

/-- Does the result fit the limit, and the integers? -/
structure Tellable (codec : Codec) (call : TypedCall α) (a : α) : Prop where
  ordered : (call.shown a).Ordered
  fits : (Wire.write (call.shown a)).length ≤ codec.limit
  counted : call.Counted a

theorem run_command {m : Methods K.Engine} (runs : K.Runs m) (call : TypedCall α)
    (engine : K.Engine) :
    K.run call.command engine = (call.direct m engine).map call.shown := by
  have same (result : Performed K.Engine Datum) : result = result.map fun value => value := by
    obtain ⟨_ | _ | _, _, _⟩ := result <;> rfl
  rw [runs]
  cases call with
  | evalScript source => exact same _
  | evalRequest request => exact same _
  | callFunction request => exact same _
  | getGlobal name => exact same _
  | setGlobal a => rfl
  | releaseFunction id => rfl
  | executePendingJobs => rfl

/-- The command arrives with the arguments of the call. -/
theorem request_payload {d : Dispatcher K} {call : TypedCall α} {bytes : List UInt8}
    (plain : call.Plain) (written : call.payload d.codec = .ok bytes) :
    call.operation.request bytes = .ok (.command call.command) := by
  have arrives {β : Type} {read : Except CodecError β} {b : β} (f : β → Command)
      (decoded : read = .ok b) :
      (do return .command (f (← read)) : Except CodecError Request) = .ok (.command (f b)) := by
    rw [decoded]
    rfl
  cases call with
  | evalScript source =>
    cases written
    exact arrives .eval (Codec.decodeEval_encode plain)
  | evalRequest r => exact arrives .eval (Codec.decodeEval_encodeEval plain written)
  | callFunction r =>
    have trips := Codec.roundTrips (only_call r plain) (CallForm.reads canonical_readable)
    exact arrives .call (Codec.decode_of_encode trips written)
  | setGlobal a =>
    have trips :=
      Codec.roundTrips (only_assignment a plain) (AssignmentForm.reads canonical_readable)
    exact arrives .setGlobal (Codec.decode_of_encode trips written)
  | getGlobal name =>
    cases written
    exact arrives .getGlobal (by simp [Codec.decodeText, Utf8.decode_encode])
  | releaseFunction id =>
    have trips := Codec.roundTrips (only_word id) (WordForm.reads canonical_readable)
    exact arrives .release (Codec.decode_of_encode trips written)
  | executePendingJobs => rfl

theorem admitted_call {d : Dispatcher K} {call : TypedCall α} {bytes : List UInt8}
    (plain : call.Plain) (written : call.payload d.codec = .ok bytes)
    (fits : bytes.length ≤ d.codec.limit) (handle : Option Nat) :
    admitted d.codec ⟨call.operation.word, handle, bytes⟩ = .ok (.command call.command) :=
  admitted_eq_ok_iff.mpr
    ⟨call.operation, OperationName.ofWord?_word call.operation, fits, request_payload plain written⟩

/-- A result arrives as it is. -/
theorem taken_shown {call : TypedCall α} {a : α} (counted : call.Counted a) :
    call.taken (call.shown a) = .ok a := by
  cases call with
  | executePendingJobs => simp [taken, shown, Datum.asNat?_ofNat counted]
  | _ => rfl

/-- A result is written, and what is written is read as that result. -/
theorem readable_shown {d : Dispatcher K} {call : TypedCall α} {a : α}
    (tellable : call.Tellable d.codec a) :
    ∃ answer, reported d.codec (.ok (call.shown a)) = .ok answer ∧
      readable answer >>= call.taken = .ok a := by
  have written : d.codec.encode (call.shown a) = .ok (Wire.write (call.shown a)) :=
    (Codec.encode_eq_ok _ _ _).mpr ⟨rfl, tellable.fits⟩
  have trips := Codec.roundTrips (only_datum _ tellable.ordered) (reads_datum canonical_readable)
  have decoded := Codec.decode_of_encode trips written
  refine ⟨Wire.write (call.shown a), by simp [reported, written, Except.mapError], ?_⟩
  simp [readable, decoded, Except.mapError, bind, Except.bind, taken_shown tellable.counted]

/-- A typed call is the operation it stands for, and the reading of the answer. -/
theorem exec_through {call : TypedCall α} {d : Dispatcher K} {bytes : List UInt8}
    (written : call.payload d.codec = .ok bytes) (handle : Option Nat) :
    exec (call.through handle) d =
      match exec (dispatch ⟨call.operation.word, handle, bytes⟩) d with
      | (.ok answer, after) => (readable answer >>= call.taken, after)
      | (.error e, after) => (.error e, after) := by
  -- Calls that give the datum as it is are made of the dispatch alone.
  have value {call : TypedCall Datum} (asIs : ∀ value, call.taken value = .ok value)
      (op : Operation) : exec (dispatchValue op) d = match exec (dispatch op) d with
      | (.ok answer, after) => (readable answer >>= call.taken, after)
      | (.error e, after) => (.error e, after) := by
    have pureTakes (value : Datum) (after : Dispatcher K) :
        exec (pure value) after = (call.taken value, after) := by simp [asIs]
    rw [← exec_taking pureTakes op, bind_pure]
  cases call with
  | evalScript source =>
    cases written
    exact value (fun _ => rfl) _
  | evalRequest request =>
    exact (exec_writing (·.encodeEval request) written).trans (value (fun _ => rfl) _)
  | callFunction request =>
    exact (exec_writing (·.encode request) written).trans (value (fun _ => rfl) _)
  | setGlobal a =>
    have takes (value : Datum) (after : Dispatcher K) :
        exec (pure ()) after = ((TypedCall.setGlobal a).taken value, after) := rfl
    exact (exec_writing (·.encode a) written).trans (exec_taking takes _)
  | getGlobal name =>
    cases written
    exact value (fun _ => rfl) _
  | releaseFunction key =>
    refine (exec_writing (·.encode key) written).trans (exec_taking (fun value after => ?_) _)
    cases known : value.asBool? <;> simp [taken, known]
  | executePendingJobs =>
    cases written
    refine exec_taking (fun value after => ?_) _
    cases known : value.asNat? <;> simp [taken, known]

/-- A call whose payload cannot be written is not sent. -/
theorem exec_through_unwritten {call : TypedCall α} {d : Dispatcher K} {error : CodecError}
    (failed : call.payload d.codec = .error error) (handle : Option Nat) :
    exec (call.through handle) d = (.error (.ofCodec error), d) := by
  cases call with
  | evalRequest request => exact exec_unwritten (·.encodeEval request) failed
  | callFunction request => exact exec_unwritten (·.encode request) failed
  | setGlobal a => exact exec_unwritten (·.encode a) failed
  | releaseFunction key => exact exec_unwritten (·.encode key) failed
  | _ => cases failed

end TypedCall

end ScriptHost
