import ScriptHost.Engine.Request
import ScriptHost.Log.Record

/-! What the host knows of its engines. A kind of engine says how one is made and what
it does with a command; whatever goes wrong in there, a panic included, is an answer. -/

namespace ScriptHost

/-- What a panic carries: a text, or something that has none. -/
inductive Panic where
  | text (message : String)
  | other
deriving DecidableEq, Repr, Inhabited

def Panic.message : Panic → String
  | .text message => message
  | .other => "unknown panic"

/-- How a piece of engine code ends. -/
inductive Outcome (α : Type) where
  | value (a : α)
  | error (e : EngineError)
  | panicked (p : Panic)
deriving Repr, Inhabited

/-- The result of engine code once panics are caught: they are fatal. -/
def Outcome.caught (what : String) : Outcome α → Except EngineError α
  | .value a => .ok a
  | .error e => .error e
  | .panicked p => .error (.fatal (what ++ " panicked: " ++ p.message))

/-- A kind of engines. `Plan` is what creations depend on and may change, such as a list
of outcomes still to come. -/
structure EngineKind where
  Engine : Type
  Plan : Type
  name : String
  create : Nat → EngineLimits → Plan → Outcome Engine × List Log.Record × Plan
  run : Command → Engine → Outcome Datum × List Log.Record × Engine
  /-- What is logged when an engine goes. A panic on the way out is swallowed. -/
  farewell : Engine → List Log.Record
  /-- Does the engine panic on its way out? -/
  panicsOnDrop : Engine → Bool := fun _ => false

end ScriptHost
