/-! What happened, for people to read: a level, the part of the program that speaks, a
message and named values. -/

namespace ScriptHost.Log

inductive Level where
  | error | warn | info | debug | trace
deriving DecidableEq, Repr, Inhabited

namespace Level

/-- Levels in order of verbosity. -/
def rank : Level → Nat
  | .error => 1
  | .warn => 2
  | .info => 3
  | .debug => 4
  | .trace => 5

def word : Level → String
  | .error => "ERROR"
  | .warn => "WARN"
  | .info => "INFO"
  | .debug => "DEBUG"
  | .trace => "TRACE"

end Level

/-- One event. The values are texts as they will be shown. -/
structure Record where
  level : Level
  target : String
  message : String
  values : List (String × String) := []
deriving DecidableEq, Repr, Inhabited

end ScriptHost.Log
