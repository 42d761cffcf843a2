import ScriptHost.Engine.Kind

/-! An engine for trials of the host. It knows a handful of sources: it counts, tells
its handle or its thread, throws, dies or panics, and echoes everything else. -/

namespace ScriptHost

structure ScriptedEngine where
  handle : Nat
  counter : Int64 := 0
  globals : Fields Datum := []
deriving Repr, Inhabited

namespace ScriptedEngine

/-- The number of milliseconds in `sleep:N`, if the source has that form: digits with an
optional plus, below `2 ^ 64`. -/
def sleep? (source : String) : Option Nat :=
  match source.toList with
  | 's' :: 'l' :: 'e' :: 'e' :: 'p' :: ':' :: rest =>
    let digits := match rest with
      | '+' :: digits => digits
      | digits => digits
    if digits.isEmpty || !digits.all Char.isDigit then none
    else
      let n := digits.foldl (fun n c => n * 10 + (c.toNat - '0'.toNat)) 0
      if n < UInt64.size then some n else none
  | _ => none

/-- The name of the thread an engine runs on. -/
def threadName (handle : Nat) : String := "qjs-engine-" ++ toString handle

def count (e : ScriptedEngine) : Outcome Datum × ScriptedEngine :=
  let counter := e.counter + 1
  (.value (.int counter), { e with counter := counter })

def eval (source : String) (e : ScriptedEngine) : Outcome Datum × ScriptedEngine :=
  match source with
  | "count" => e.count
  | "handle" => (.value (.int (Int64.ofNat e.handle)), e)
  | "panic" => (.panicked (.text "scripted panic"), e)
  | "fatal" => (.error (.fatal "scripted fatal"), e)
  | "throw" => (.error (.exception { message := "scripted throw" }), e)
  | "thread" => (.value (.string (threadName e.handle)), e)
  | other => if (sleep? other).isSome then e.count else (.value (.string other), e)

def run (command : Command) (e : ScriptedEngine) : Outcome Datum × ScriptedEngine :=
  match command with
  | .eval request => e.eval request.source
  | .call ⟨.path "echo", args⟩ => (.value (.array args), e)
  | .call _ => (.error (.exception { message := "not a function" }), e)
  | .setGlobal a => (.value .undefined, { e with globals := e.globals.insert a.name a.value })
  | .getGlobal name => (.value ((e.globals.get? name).getD .undefined), e)
  | .release _ => (.value (.bool false), e)
  | .runJobs => (.value (.int 0), e)

/-- Engines of this kind; with `failing` none can be created. -/
def kind (failing : Bool) : EngineKind where
  Engine := ScriptedEngine
  Plan := Unit
  name := "scripted"
  create handle _ plan :=
    (if failing then .error (.fatal "scripted creation failure") else .value { handle := handle },
     [], plan)
  run command e :=
    let (outcome, e) := e.run command
    (outcome, [], e)
  farewell _ := []

end ScriptedEngine

end ScriptHost
