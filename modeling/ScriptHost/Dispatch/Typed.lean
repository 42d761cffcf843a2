import ScriptHost.Dispatch.Dispatcher
import ScriptHost.Datum.Display

/-! The operations with typed arguments and results. Each writes its payload, dispatches
it and reads the answer. -/

namespace ScriptHost.Dispatcher

variable {K : EngineKind}

/-- Reads the value that an operation answered with. -/
def readValue (bytes : List UInt8) : Dispatch K Datum :=
  match Codec.decode bytes with
  | .ok value => pure value
  | .error e => throw (.internal e.message)

/-- Dispatches an operation and reads the value it answers with. -/
def dispatchValue (op : Operation) : Dispatch K Datum := do readValue (← dispatch op)

/-- The refusal of an answer of the wrong kind. -/
def unexpected (name : OperationName) (value : Datum) : DispatchError :=
  .internal (name.word ++ " returned " ++ value.display)

def createEngine (options : Option EngineOptions) : Dispatch K Nat := do
  let payload ← match options with
    | some options => liftCodec ((← get).codec.encode options)
    | none => pure []
  let value ← dispatchValue ⟨OperationName.createEngine.word, none, payload⟩
  match value.asNat? with
  | some handle => return handle
  | none => throw (unexpected .createEngine value)

def disposeEngine (handle : Nat) : Dispatch K Unit := do
  let _ ← dispatch ⟨OperationName.disposeEngine.word, some handle, []⟩

/-- Evaluates a script given as bare text. -/
def evalScript (handle : Option Nat) (source : String) : Dispatch K Datum :=
  dispatchValue ⟨OperationName.evalScript.word, handle, Utf8.encode source⟩

def evalRequest (handle : Option Nat) (request : EvalRequest) : Dispatch K Datum := do
  let payload ← liftCodec ((← get).codec.encodeEval request)
  dispatchValue ⟨OperationName.evalScript.word, handle, payload⟩

def callFunction (handle : Option Nat) (request : CallRequest) : Dispatch K Datum := do
  let payload ← liftCodec ((← get).codec.encode request)
  dispatchValue ⟨OperationName.callFunction.word, handle, payload⟩

def setGlobal (handle : Option Nat) (assignment : GlobalAssignment) : Dispatch K Unit := do
  let payload ← liftCodec ((← get).codec.encode assignment)
  let _ ← dispatchValue ⟨OperationName.setGlobal.word, handle, payload⟩

def getGlobal (handle : Option Nat) (name : String) : Dispatch K Datum :=
  dispatchValue ⟨OperationName.getGlobal.word, handle, Utf8.encode name⟩

def releaseFunction (handle : Option Nat) (id : UInt64) : Dispatch K Bool := do
  let payload ← liftCodec ((← get).codec.encode id)
  let value ← dispatchValue ⟨OperationName.releaseFunction.word, handle, payload⟩
  match value.asBool? with
  | some known => return known
  | none => throw (unexpected .releaseFunction value)

def executePendingJobs (handle : Option Nat) : Dispatch K Nat := do
  let value ← dispatchValue ⟨OperationName.executePendingJobs.word, handle, []⟩
  match value.asNat? with
  | some count => return count
  | none => throw (unexpected .executePendingJobs value)

end ScriptHost.Dispatcher
