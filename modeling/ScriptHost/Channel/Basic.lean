import ScriptHost.Channel.Message
import ScriptHost.Dispatch.Typed
import ScriptHost.Report.CallResult

/-! The method channel: hosts speak JSON to a dispatcher. A call is turned into an
operation, and the value that comes back is shown by its JSON view. -/

namespace ScriptHost

/-- A named channel and its dispatcher. -/
structure Channel (K : EngineKind) where
  name : String
  dispatcher : Dispatcher K

namespace Channel

variable {K : EngineKind}

def ofSettings (settings : Settings) (plan : K.Plan) : Channel K :=
  ⟨settings.channelName, .ofSettings settings plan⟩

/-- An argument that may be absent or `null`. -/
def optionalArg (args : Json) (key : String) (read? : Json → Option α) (reason : String) :
    Except DispatchError (Option α) :=
  match args.get? key with
  | none | some .null => .ok none
  | some value =>
    match read? value with
    | some a => .ok (some a)
    | none => .error (.invalidArgument ("`" ++ key ++ "` must be " ++ reason))

def handleArg (args : Json) : Except DispatchError (Option Nat) :=
  optionalArg args "handle" Json.asNatural? "a positive integer"

def limitArg (args : Json) (key : String) : Except DispatchError (Option UInt64) :=
  return (← optionalArg args key Json.asNatural? "a non-negative integer").map UInt64.ofNat

def requiredString (args : Json) (key : String) : Except DispatchError String :=
  match (args.get? key).bind Json.asString? with
  | some s => .ok s
  | none => .error (.invalidArgument ("missing '" ++ key ++ "' string field"))

private def encoded (result : Except CodecError (List UInt8)) :
    Except DispatchError (List UInt8) :=
  result.mapError DispatchError.ofCodec

/-- The payload of a call, from its arguments. -/
def payload (codec : Codec) (name : OperationName) (args : Json) :
    Except DispatchError (List UInt8) := do
  match name with
  | .createEngine =>
    let options : EngineOptions := {
      memoryLimit := ← limitArg args "memoryLimitBytes"
      stackLimit := ← limitArg args "maxStackSizeBytes"
      timeout := ← limitArg args "executionTimeoutMs" }
    if options = {} then return [] else encoded (codec.encode options)
  | .evalScript =>
    let request : EvalRequest := {
      source := ← requiredString args "source"
      fileName := ← optionalArg args "fileName" Json.asString? "a string"
      asModule := (← optionalArg args "module" Json.asBool? "a boolean").getD false
      strict := ← optionalArg args "strict" Json.asBool? "a boolean" }
    encoded (codec.encodeEval request)
  | .callFunction =>
    match (args.get? "function").bind FunctionRef.ofJson? with
    | none => throw (.invalidArgument
        "`function` must be a global path or a function reference")
    | some function =>
      match args.get? "args" with
      | none | some .null => encoded (codec.encode (⟨function, []⟩ : CallRequest))
      | some (.array items) =>
        encoded (codec.encode (⟨function, items.map Datum.ofJson⟩ : CallRequest))
      | some _ => throw (.invalidArgument "`args` must be an array")
  | .setGlobal =>
    let name ← requiredString args "name"
    let value := ((args.get? "value").map Datum.ofJson).getD .undefined
    encoded (codec.encode (⟨name, value⟩ : GlobalAssignment))
  | .getGlobal => return Utf8.encode (← requiredString args "name")
  | .releaseFunction =>
    match (args.get? "function").bind FunctionRef.ofJson? with
    | some (.retained id) => encoded (codec.encode id)
    | _ => throw (.invalidArgument "`function` must be a function id")
  | .disposeEngine | .executePendingJobs => return []

/-- The operation that a call stands for. -/
def operation (codec : Codec) (call : MethodCall) : Except DispatchError Operation := do
  match OperationName.ofWord? call.method with
  | none => throw (.unknownOperation call.method)
  | some name =>
    let args := call.arguments
    if !(args.isNull || args.isObject) then
      throw (.invalidArgument "arguments must be an object")
    let handle ← handleArg args
    return ⟨call.method, handle, ← payload codec name args⟩

/-- Makes a call and gives the JSON view of its value. -/
def invoke (call : MethodCall) : Dispatch K Json := do
  let op ← liftExcept (operation (← get).codec call)
  return (← Dispatcher.readValue (← Dispatcher.dispatch op)).toJson

def handle (call : MethodCall) (ch : Channel K) : ChannelResponse × Channel K :=
  let (result, d) := (invoke call).run ch.dispatcher
  let response := match result with
    | .ok value => .result value
    | .error e => .error e.info
  (response, { ch with dispatcher := d })

/-- The handle that a report shows: the one the arguments name, if they name one. -/
def reportedHandle (args : Json) : Option UInt64 :=
  match handleArg args with
  | .ok handle => handle.map UInt64.ofNat
  | .error _ => none

/-- Makes a call and reports on it. -/
def execute (runId : String) (call : MethodCall) (ch : Channel K) : CallResult × Channel K :=
  let (result, d) := (invoke call).run ch.dispatcher
  let report := match result with
    | .ok data => { CallResult.passed call.method runId with data := some data }
    | .error e => .failed call.method runId e.info
  ({ report with handle := reportedHandle call.arguments }, { ch with dispatcher := d })

end Channel

end ScriptHost
