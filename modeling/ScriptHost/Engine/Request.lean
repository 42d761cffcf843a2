import ScriptHost.Datum.Basic

/-! What an engine can be asked to do, the payloads that ask for it, and the limits that an engine is
created with; and what it answers when it has no value. Zero disables a limit. -/

namespace ScriptHost

/-- A script to evaluate. Without options it travels as bare text. -/
structure EvalRequest where
  source : String
  /-- The name shown in stack traces. -/
  fileName : Option String := none
  /-- Evaluate as a module; the result is its namespace. -/
  asModule : Bool := false
  /-- Overrides the strictness of the engine for this script. -/
  strict : Option Bool := none
deriving DecidableEq, Repr, Inhabited

def EvalRequest.hasOptions (r : EvalRequest) : Bool :=
  r.fileName.isSome || r.asModule || r.strict.isSome

structure CallRequest where
  function : FunctionRef
  args : List Datum := []
deriving Repr, Inhabited

structure GlobalAssignment where
  name : String
  value : Datum
deriving Repr, Inhabited

/-- Limits given for one engine; those left out are the configured ones. -/
structure EngineOptions where
  memoryLimit : Option UInt64 := none
  stackLimit : Option UInt64 := none
  timeout : Option UInt64 := none
deriving DecidableEq, Repr, Inhabited

structure EngineLimits where
  memory : UInt64 := 64 * 1024 * 1024
  stack : UInt64 := 1024 * 1024
  gcThreshold : UInt64 := 0
  /-- Milliseconds that one command may run. -/
  timeout : UInt64 := 0
  /-- Wait for a promise result to settle? -/
  settlePromises : Bool := true
  strict : Bool := false
  /-- The most values that one result may hold. -/
  nodes : UInt64 := 1000000
deriving DecidableEq, Repr, Inhabited

/-- The limits with those that options give put in their place. -/
def EngineLimits.withOptions (limits : EngineLimits) (options : EngineOptions) : EngineLimits :=
  { limits with
    memory := options.memoryLimit.getD limits.memory
    stack := options.stackLimit.getD limits.stack
    timeout := options.timeout.getD limits.timeout }

/-- One unit of work for an engine, read from its payload. -/
inductive Command where
  | eval (request : EvalRequest)
  | call (request : CallRequest)
  | setGlobal (assignment : GlobalAssignment)
  | getGlobal (name : String)
  | release (id : UInt64)
  | runJobs
deriving Repr, Inhabited

/-- An exception of a script: a thrown value, a syntax error, or an interruption. -/
structure ScriptException where
  message : String
  name : Option String := none
  stack : Option String := none
  interrupted : Bool := false
deriving DecidableEq, Repr, Inhabited

inductive EngineError where
  | exception (thrown : ScriptException)
  /-- The engine can no longer be trusted. -/
  | fatal (reason : String)
  | invalidArgument (reason : String)
  /-- The engine is gone. -/
  | terminated
deriving DecidableEq, Repr, Inhabited

namespace EngineError

def message : EngineError → String
  | .exception thrown => thrown.message
  | .fatal reason => "engine fatal: " ++ reason
  | .invalidArgument reason => "invalid argument: " ++ reason
  | .terminated => "engine terminated"

def isFatal : EngineError → Bool
  | .fatal _ => true
  | _ => false

end EngineError

end ScriptHost
