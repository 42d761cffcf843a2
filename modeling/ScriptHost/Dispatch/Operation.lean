import ScriptHost.Dispatch.Error
import ScriptHost.Engine.Request

/-! Operations: a name, the handle of an engine, and a payload. -/

namespace ScriptHost

/-- A named request. -/
structure Operation where
  name : String
  handle : Option Nat := none
  payload : List UInt8 := []
deriving DecidableEq, Repr, Inhabited

/-- The operations there are, in the order of their names. -/
inductive OperationName where
  | callFunction
  | createEngine
  | disposeEngine
  | evalScript
  | executePendingJobs
  | getGlobal
  | releaseFunction
  | setGlobal
deriving DecidableEq, Repr, Inhabited

namespace OperationName

def all : List OperationName :=
  [.callFunction, .createEngine, .disposeEngine, .evalScript, .executePendingJobs, .getGlobal,
   .releaseFunction, .setGlobal]

def word : OperationName → String
  | .callFunction => "callFunction"
  | .createEngine => "createEngine"
  | .disposeEngine => "disposeEngine"
  | .evalScript => "evalScript"
  | .executePendingJobs => "executePendingJobs"
  | .getGlobal => "getGlobal"
  | .releaseFunction => "releaseFunction"
  | .setGlobal => "setGlobal"

def ofWord? (name : String) : Option OperationName := all.find? fun op => op.word == name

end OperationName

/-- What an operation asks for, read from its payload. -/
inductive Request where
  | create (options : EngineOptions)
  | dispose
  | command (command : Command)
deriving Repr, Inhabited

/-- Reads the payload of an operation. Payloads of operations that need none are not
looked at. -/
def OperationName.request (name : OperationName) (payload : List UInt8) :
    Except CodecError Request :=
  match name with
  | .createEngine => return .create (← Codec.decodeOptions payload)
  | .disposeEngine => return .dispose
  | .evalScript => return .command (.eval (← Codec.decodeEval payload))
  | .callFunction => return .command (.call (← Codec.decode payload))
  | .setGlobal => return .command (.setGlobal (← Codec.decode payload))
  | .getGlobal => return .command (.getGlobal (← Codec.decodeText payload))
  | .releaseFunction => return .command (.release (← Codec.decode payload))
  | .executePendingJobs => return .command .runJobs

end ScriptHost
