import ScriptHost.Datum.Display
import ScriptHost.Script.Host

/-! Copying values out of an engine and into it. Functions stay in the engine: they leave
as the ids under which it keeps them. -/

namespace ScriptHost.Script.Host

/-- How deep values may be nested. -/
def maxDepth : Nat := 64

/-! ### Functions that are kept -/

/-- Keeps a function and gives its id. -/
def retain (f : Ref) : Host Nat :=
  modifyGet fun s =>
    let id := s.heap.retained.last + 1
    (id, { s with heap := { s.heap with
      retained := ⟨id, (id, f) :: s.heap.retained.functions⟩ } })

/-- The function of an id. -/
def restore (id : Nat) : Host Ref := do
  match ← look (·.retained.functions.lookup id) with
  | some f => return f
  | none => throw (.invalidArgument ("unknown function id " ++ toString id))

/-! ### Copying out -/

/-- Takes one from the number of values that the result may have. -/
def takeNode : Host Unit := do
  if (← get).nodesLeft = 0 then
    rangeError "result has too many values to copy out of the engine"
  modify fun s => { s with nodesLeft := s.nodesLeft - 1 }

def exportText (s : Utf16) : Host String := do
  match s.toString? with
  | .ok text => return text
  | .error index => failWith (textFault index) none

/-- A key as the host sees it: text up to the first NUL. -/
def exportKey (k : Key) : Host String := do
  let text ← exportText (k.text?.getD {})
  return String.ofList (text.toList.takeWhile (· != '\x00'))

/-- The length of something that counts as an array. -/
def exportLength (r : Ref) : Host Nat := do
  match ← demand (Comp.get r "length") with
  | .number d =>
    if (Double.ofNat (← get).nodesLeft).toFloat < d.toFloat then
      rangeError ("array of length " ++ Datum.displayLayout.render d
        ++ " has too many values to copy out of the engine")
    return if d.isFinite then d.truncate.toNat else 0
  | v => conversionError v "f64"

inductive Shape where
  | array | function | error | object
deriving DecidableEq

/-- What an object counts as outside. -/
def shape (h : Heap) (r : Ref) : Shape :=
  if Comp.isArrayRef h (h.objects.size + 1) r then .array
  else if h.isCallable r then .function
  else if isErrorObject h r then .error
  else .object

/-- The keys of the properties that are copied. -/
def exportKeys (r : Ref) : Host (List Key) := do
  match ← exec (Comp.enumerableKeys r fun ks => .done (.keys ks)) with
  | .ok (.keys ks) => return ks
  | .ok _ => return []
  | .error f => fail f

/-- Copies the items of an array, `count` of them from one on, after those that are found. -/
def copyItems (copy : Value → Host Datum) (r : Ref) : Nat → Nat → List Datum → Host (List Datum)
  | 0, _, found => return found.reverse
  | count + 1, index, found => do
    let item ← copy (← demand (Comp.get r (.ofNat index)))
    copyItems copy r count (index + 1) (item :: found)

/-- Copies the properties of some keys, after those that are found. -/
def copyFields (copy : Value → Host Datum) (r : Ref) :
    List Key → List (String × Datum) → Host (List (String × Datum))
  | [], found => return found.reverse
  | k :: rest, found => do
    let name ← exportKey k
    let item ← copy (← demand (Comp.get r k))
    copyFields copy r rest ((name, item) :: found)

/-- Adds the texts that an error object has under some names and that are not copied yet. -/
def addTexts (r : Ref) : List String → Fields Datum → Host (Fields Datum)
  | [], fields => return fields
  | name :: rest, fields => do
    if fields.contains name then addTexts r rest fields
    else
      match ← textOf r name false with
      | some text => addTexts r rest (fields.insert name (.string text))
      | none => addTexts r rest fields

/-- Copies a value out of the engine, if it has at most so many levels. -/
def copyOut : Nat → Value → Host Datum
  | 0, _ => rangeError ("value nesting exceeds " ++ toString maxDepth ++ " levels")
  | levels + 1, v => do
    takeNode
    match v with
    | .undefined | .symbol _ => return .undefined
    | .null => return .null
    | .bool b => return .bool b
    | .number d => return .ofDouble d
    | .bigInt i => return .bigInt (toString i)
    | .string s => return .string (← exportText s)
    | .object r =>
      match ← look (shape · r) with
      | .array =>
        let n ← exportLength r
        return .array (← copyItems (copyOut levels) r n 0 [])
      | .function =>
        let name := (← textOf r "name" false).filter (· != "")
        return .function ⟨UInt64.ofNat (← retain r), name⟩
      | .object =>
        let fields ← copyFields (copyOut levels) r (← exportKeys r) []
        return .object (Fields.ofList fields)
      | .error =>
        let fields ← copyFields (copyOut levels) r (← exportKeys r) []
        return .object (← addTexts r ["name", "message", "stack"] (Fields.ofList fields))

/-- Copies a value out of the engine. -/
def exportValue (v : Value) : Host Datum := copyOut (maxDepth + 1) v

/-! ### Copying in -/

/-- Is the text decimal digits, with a minus in front or not? -/
def isDecimal (text : String) : Bool :=
  let digits := match text.toList with
    | '-' :: rest => rest
    | cs => cs
  !digits.isEmpty && digits.all Char.isDigit

/-- A big integer is made by the engine's own function for it. -/
def copyBigInt (digits : String) : Host Value := do
  unless isDecimal digits do
    throw (.invalidArgument ("\x60" ++ digits ++ "\x60 is not a decimal BigInt"))
  let f ← demand (Comp.get Intrinsic.global.ref "BigInt")
  if ← look (·.callable f) then demand (Comp.call f .undefined [.text digits])
  else conversionError f "function"

/-- One level deeper, if there may be one. -/
def checkLevel (depth : Nat) : Host Unit := do
  if maxDepth < depth then
    throw (.invalidArgument ("argument nesting exceeds " ++ toString maxDepth ++ " levels"))

/-- Makes a plain object or an array. -/
def newObject (make : Comp Value) : Host Ref := do
  match ← demand make with
  | .object r => return r
  | _ => return 0

mutual

/-- Copies a datum into the engine. -/
def copyIn (depth : Nat) (d : Datum) : Host Value := do
  checkLevel depth
  match d with
  | .undefined => return .undefined
  | .null => return .null
  | .bool b => return .bool b
  | .int i => return .number (Double.ofInt i.toInt)
  | .float d => return .number d
  | .bigInt digits => copyBigInt digits
  | .string s => return .string (.text s)
  | .array items =>
    let r ← newObject (Comp.newArray [])
    putItems depth r 0 items
    return .object r
  | .object fields =>
    let r ← newObject (Comp.newPlain [])
    putFields depth r fields
    return .object r
  | .function handle => return .object (← restore handle.id.toNat)

def putItems (depth : Nat) (r : Ref) (index : Nat) : List Datum → Host Unit
  | [] => return ()
  | item :: rest => do
    let v ← copyIn (depth + 1) item
    discard (demand do
      Comp.set r (.ofNat index) v
      return .undefined)
    putItems depth r (index + 1) rest

def putFields (depth : Nat) (r : Ref) : List (String × Datum) → Host Unit
  | [] => return ()
  | (name, item) :: rest => do
    let v ← copyIn (depth + 1) item
    discard (demand do
      Comp.set r (Key.ofString name) v
      return .undefined)
    putFields depth r rest

end

end ScriptHost.Script.Host
