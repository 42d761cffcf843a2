import ScriptHost.Engine.Request
import ScriptHost.Script.Realm

/-! The host's side of a command: it has the engine do one computation after another and
looks at what each leaves. What goes wrong in the engine becomes an engine error here. -/

namespace ScriptHost.Script

/-- An engine during one command. -/
structure Session where
  heap : Heap
  coroutines : Array (Option Parked)
  /-- The tasks that the command may still begin; none is no limit. -/
  time : Option Nat := none
  /-- Has the time been over? -/
  tripped : Bool := false
  /-- How many values the result may still have. -/
  nodesLeft : Nat := UInt64.size - 1

/-- What the host does with an engine. -/
abbrev Host (α : Type) := ExceptT EngineError (StateM Session) α

namespace Host

variable {α : Type}

/-- No run of the machine comes near so many steps. -/
def stepBound : Nat := Nat.pow 2 62

/-- Runs a computation on the engine, with no call under way. The functions that are kept are the
host's own, so they are the same afterwards. -/
def exec (p : Prog) : Host (Except Fault Result) := do
  let run (s : Session) : Except Fault Result × Session :=
    match s with
    | ⟨heap, coroutines, time, tripped, nodesLeft⟩ =>
      let kept := heap.retained
      let (verdict, m) := Machine.run scripts stepBound
        { prog := p, heap := heap, coroutines := coroutines, time := time, tripped := tripped }
      let outcome := match verdict with
        | .finished outcome => outcome
        | .unfinished => .error (.interrupted .undefined)
      (outcome,
        ⟨{ m.heap with activations := [], depth := 0, retained := kept }, m.coroutines, m.time,
          m.tripped, nodesLeft⟩)
  ExceptT.lift (modifyGet run)

/-- Runs a computation of a value. -/
def value (c : Comp Value) : Host (Except Fault Value) := do
  match ← exec c.toProg with
  | .ok (.value v) => return .ok v
  | .ok _ => return .ok .undefined
  | .error f => return .error f

/-- Looks at the heap. -/
def look (f : Heap → α) : Host α := do return f (← get).heap

/-! ### Errors -/

def failWith (message : String) (name : Option String) : Host α :=
  throw (.exception { message := message, name := name })

def rangeError (message : String) : Host α := failWith message (some "RangeError")

def typeError (message : String) : Host α := failWith message (some "TypeError")

/-- The error of a text that cannot leave the engine. -/
def textFault (index : Nat) : String :=
  "Conversion from string failed: invalid utf-8 sequence of 1 bytes from index " ++ toString index

/-- A property as text, if it can be read and is there; with `coerces` it is turned into
text. -/
def textOf (r : Ref) (name : String) (coerces : Bool) : Host (Option String) := do
  match ← value (Comp.get r name) with
  | .error _ | .ok .undefined | .ok .null => return none
  | .ok v =>
    let text ← match v with
      | .string s => pure (Except.ok (Value.string s))
      | v => if coerces then value do return .string (← Comp.toText v) else pure (.ok v)
    match text with
    | .ok (.string s) => return s.toString?.toOption
    | _ => return none

def Fault.value : Fault → Value
  | .thrown v | .leaving v | .interrupted v => v

def isErrorObject (h : Heap) (r : Ref) : Bool :=
  match h.kind r with
  | .error => true
  | _ => false

/-- What the host makes of a fault. -/
def describe (f : Fault) : Host EngineError := do
  let interrupted := (← get).tripped
  let v := Fault.value f
  match v with
  | .object r =>
    if ← look (isErrorObject · r) then
      let message := (← textOf r "message" true).getD ""
      let name ← textOf r "name" false
      if name == some "InternalError" && message == "out of memory" then
        return .fatal "out of memory"
      let stack := (← textOf r "stack" true).filter (· != "")
      return .exception ⟨message, name, stack, interrupted⟩
  | _ => pure ()
  let message ← match ← value do return .string (← Comp.toText v) with
    | .ok (.string s) => pure (s.toString?.toOption.getD "uncaught exception")
    | _ => pure "uncaught exception"
  return .exception ⟨message, none, none, interrupted⟩

/-- Fails with what a fault means. -/
def fail (f : Fault) : Host α := do throw (← describe f)

/-- Runs a computation of a value, or fails. -/
def demand (c : Comp Value) : Host Value := do
  match ← value c with
  | .ok v => return v
  | .error f => fail f

/-- The name of the type of a value, as conversion errors call it. -/
def typeWord (h : Heap) (v : Value) : String :=
  match v with
  | .undefined => "undefined"
  | .null => "null"
  | .bool _ => "bool"
  | .number d =>
    if d.toInt?.any (fun (i : Int) => -Nat.pow 2 31 ≤ i && i < Nat.pow 2 31) &&
        !d.isNegativeZero then "int"
    else "float"
  | .bigInt _ => "bigint"
  | .string _ => "string"
  | .symbol _ => "symbol"
  | .object r =>
    match h.kind r with
    | .promise .. => "promise"
    | .error => "exception"
    | _ =>
      if Comp.isArrayRef h (h.objects.size + 1) r then "array"
      else if h.isConstructor v then "constructor"
      else if h.isCallable r then "function"
      else "object"

/-- The error of a value of the wrong type. -/
def conversionError (v : Value) (wanted : String) : Host α := do
  let word ← look (typeWord · v)
  failWith ("Error converting from js '" ++ word ++ "' into type '" ++ wanted ++ "'") none

end Host

end ScriptHost.Script
