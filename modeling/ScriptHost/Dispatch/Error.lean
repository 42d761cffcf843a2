import ScriptHost.Engine.Request
import ScriptHost.Report.Status
import ScriptHost.Wire.Codec

/-! Why an operation failed, and how that is reported. -/

namespace ScriptHost

inductive DispatchError where
  | unknownOperation (name : String)
  | invalidArgument (reason : String)
  | invalidHandle (reason : String)
  | engineException (thrown : ScriptException)
  | engineFatal (reason : String)
  | internal (reason : String)
deriving DecidableEq, Repr, Inhabited

namespace DispatchError

def message : DispatchError → String
  | .unknownOperation name => "unknown operation: `" ++ name ++ "`"
  | .invalidArgument reason => "invalid argument: " ++ reason
  | .invalidHandle reason => "invalid handle: " ++ reason
  | .engineException thrown => thrown.message
  | .engineFatal reason => "engine fatal: " ++ reason
  | .internal reason => "internal error: " ++ reason

def code : DispatchError → ErrorCode
  | .unknownOperation _ => .unknownOperation
  | .invalidArgument _ => .invalidArgument
  | .invalidHandle _ => .invalidHandle
  | .engineException _ => .engineException
  | .engineFatal _ => .engineFatal
  | .internal _ => .internalError

/-- What is known of an exception beside its message, or `null`. -/
def details : DispatchError → Json
  | .engineException thrown =>
    let known :=
      (thrown.name.map fun name => ("name", Json.string name)).toList ++
      (thrown.stack.map fun stack => ("stack", Json.string stack)).toList ++
      (if thrown.interrupted then [("interrupted", Json.bool true)] else [])
    if known.isEmpty then .null else .ofFields known
  | _ => .null

def info (e : DispatchError) : ErrorInfo := ⟨e.code, e.message, e.details⟩

/-- A payload that cannot be read is the caller's fault, one that cannot be written is
not. -/
def ofCodec : CodecError → DispatchError
  | .encoding reason => .internal reason
  | e => .invalidArgument e.message

def ofEngine : EngineError → DispatchError
  | .exception thrown => .engineException thrown
  | .fatal reason => .engineFatal reason
  | .invalidArgument reason => .invalidArgument reason
  | .terminated => .invalidHandle "engine has been disposed"

end DispatchError

end ScriptHost
