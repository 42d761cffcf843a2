import ScriptHost.Json.Decode
import ScriptHost.Yaml.Schema

/-! Reading typed values from YAML nodes. What does not fit is reported with the path to
it. A tree that is cut is read up to the cut, so a value before it that does not fit is
reported first. -/

namespace ScriptHost.Yaml

inductive Problem where
  | fault (f : Fault)
  | mismatch (path : String) (m : Json.Mismatch)
  | outOfRange (path : String)

def located (path message : String) : String :=
  if path.isEmpty then message else path ++ ": " ++ message

def Problem.message (d : Dialect) : Problem → String
  | .fault f => f.message d
  | .mismatch path m => located path m.message
  | .outOfRange path => located path "JSON number out of range"

/-- Where a node is. -/
structure Spot where
  path : String := ""
  /-- How many levels may be below. -/
  levels : Nat := 128
  /-- What is wrong at a cut. -/
  ending : Fault
  /-- How often names of nodes may be followed. -/
  bound : Nat

/-- A reading counts how often it followed the name of a node. -/
abbrev Read (α : Type) := StateT Nat (Except Problem) α

namespace Spot

def at_ (s : Spot) (path : String) : Spot := { s with path := path }

def item (s : Spot) (index : Nat) : Spot := s.at_ (s.path ++ "[" ++ toString index ++ "]")

def member (s : Spot) (key : Node) : Spot :=
  let name := match key with
    | .scalar _ text _ => text
    | _ => "?"
  s.at_ (if s.path.isEmpty then name else s.path ++ "." ++ name)

variable {α : Type}

def fail (s : Spot) (m : Json.Mismatch) : Read α := throw (.mismatch s.path m)

/-- One level deeper. -/
def deeper (s : Spot) : Read Spot :=
  match s.levels with
  | 0 => throw (.fault .recursionLimit)
  | levels + 1 => return { s with levels := levels }

end Spot

/-- How numbers are written in messages. -/
def messageLayout : NumberLayout where
  low := -NumberLayout.unbounded
  high := NumberLayout.unbounded
  point := true

def Atom.describe : Atom → String
  | .null => "unit value"
  | .bool b => "boolean \x60" ++ (if b then "true" else "false") ++ "\x60"
  | .int i =>
    let wide := if i < -Nat.pow 2 63 then " as i128" else if UInt64.size ≤ i then " as u128" else ""
    "integer \x60" ++ toString i ++ "\x60" ++ wide
  | .float d => "floating point \x60" ++ messageLayout.render d ++ "\x60"
  | .text s => "string " ++ Text.quote s

/-- A tag of the text's own, which names a case of something. -/
def ownTag? (tag : Option String) : Option String :=
  match tag with
  | some tag =>
    match tag.toList with
    | ['!'] => some "!"
    | '!' :: rest => some (String.ofList rest)
    | _ => none
  | none => none

/-- The number of a tagged scalar must be one. -/
def taggedAtom (s : Spot) (tag text : String) : Read Atom :=
  let wrong (expected : String) : Read Atom :=
    s.fail (.wrongValue ("string " ++ Text.quote text) expected)
  if tag == schemaTag "bool" then
    match boolWord? text with
    | some b => return .bool b
    | none => wrong "a boolean"
  else if tag == schemaTag "int" then
    match strictInt? text.toList with
    | some i => return .int i
    | none => wrong "an integer"
  else if tag == schemaTag "float" then
    match strictFloat? text with
    | some d => return .float d
    | none => wrong "a float"
  else if tag == schemaTag "null" then
    if isNullWord text then return .null else wrong "null"
  else return .text text

/-- What a scalar stands for. -/
def atomOf (s : Spot) (tag : Option String) (text : String) (style : ScalarStyle) : Read Atom :=
  match tag with
  | some tag =>
    if style == .plain && tag.startsWith "!" then return strictAtom text else taggedAtom s tag text
  | none => return if style == .plain then strictAtom text else .text text

/-- The node itself, if it has other names. -/
def follow (s : Spot) (n : Node) : Read Node := do
  match n with
  | .alias target =>
    let jumps ← get
    if s.bound < jumps + 1 then throw (.fault .repetitionLimit)
    set (jumps + 1)
    match target with
    | some node => return node
    | none => throw (.fault .recursionLimit)
  | .cut => throw (.fault s.ending)
  | n => return n

/-- The refusal of a node where another kind is expected. -/
def refuse {α : Type} (s : Spot) (expected : String) (n : Node) : Read α := do
  match n with
  | .scalar tag text style =>
    let atom ← atomOf s tag text style
    s.fail (.wrongType atom.describe expected)
  | .sequence .. => s.fail (.wrongType "sequence" expected)
  | .mapping .. => s.fail (.wrongType "map" expected)
  | _ => throw (.fault s.ending)

/-- Is the node a scalar for which nothing is written? -/
def isNothing : Node → Bool
  | .scalar _ "" .plain => true
  | _ => false

/-- Text. -/
def readText (s : Spot) (expected : String) (n : Node) : Read String := do
  match ← follow s n with
  | .scalar _ text _ => return text
  | n => refuse s expected n

/-- Is there a value, or is none written? -/
def isPresent (s : Spot) (n : Node) : Read Bool := do
  match ← follow s n with
  | .scalar tag text style =>
    if style != .plain then return true
    match tag with
    | some tag =>
      if tag == schemaTag "null" then
        if isNullWord text then return false
        else s.fail (.wrongValue ("string " ++ Text.quote text) "null")
      else return true
    | none => return !text.isEmpty && !isNullWord text
  | _ => return true

/-- A value that need not be there. -/
def readOptional {α : Type} (s : Spot) (read : Node → Read α) (n : Node) : Read (Option α) := do
  if ← isPresent s n then return some (← read n) else return none

/-- The items of a sequence. -/
def readItems (s : Spot) (expected : String) (n : Node) : Read (List Node) := do
  match ← follow s n with
  | .sequence _ items => return items
  | n => if isNothing n then return [] else refuse s expected n

/-- The entries of a mapping. -/
def readEntries (s : Spot) (expected : String) (n : Node) : Read (List (Node × Node)) := do
  match ← follow s n with
  | .mapping _ entries => return entries
  | n => if isNothing n then return [] else refuse s expected n

/-- Passes over a node that nobody asked for. -/
def skip (s : Spot) : Nat → Node → Read Unit
  | 0, _ => return ()
  | levels + 1, n => do
    match n with
    | .cut => throw (.fault s.ending)
    | .sequence _ items => items.forM (skip s levels)
    | .mapping _ entries => entries.forM fun (k, v) => do
      skip s levels k
      skip s levels v
    | _ => return ()

/-- A case of a type whose cases hold nothing. -/
def readCase {α : Type} (s : Spot) (cases : List (String × α)) (n : Node) : Read α := do
  let find (name : String) : Read α := do
    match cases.lookup name with
    | some a => return a
    | none => s.fail (.unknownVariant name (cases.map Prod.fst))
  match ← follow s n with
  | .scalar tag text _ =>
    match ownTag? tag with
    | some name => find name
    | none => find text
  | .sequence tag _ =>
    match ownTag? tag with
    | some name => find name
    | none => s.fail (.wrongType "sequence" "a YAML tag starting with '!'")
  | .mapping tag _ =>
    match ownTag? tag with
    | some name => find name
    | none => s.fail (.wrongType "map" "a YAML tag starting with '!'")
  | _ => throw (.fault s.ending)

/-- A number of JSON. -/
def jsonInt (s : Spot) (i : Int) : Read Json :=
  if -Nat.pow 2 63 ≤ i ∧ i < UInt64.size then return .int i else throw (.outOfRange s.path)

/-- What JSON values are called in messages. -/
def anyJson : String := "any valid JSON value"

/-- Any value that JSON knows, of at most so many levels. Keys are taken as text; of equal
ones the last counts. -/
def readJson : Nat → Spot → Node → Read Json
  | 0, s, n => do
    match ← follow s n with
    | .scalar tag text style => scalarJson s tag text style
    | .cut => throw (.fault s.ending)
    | _ => throw (.fault .recursionLimit)
  | levels + 1, s, n => do
    match ← follow s n with
    | .scalar tag text style => scalarJson s tag text style
    | .sequence tag items =>
      if (ownTag? tag).isSome then s.fail (.wrongType "enum" anyJson)
      let values ← items.zipIdx.mapM fun (item, i) => readJson levels (s.item i) item
      return .array values
    | .mapping tag entries =>
      if (ownTag? tag).isSome then s.fail (.wrongType "enum" anyJson)
      let members ← entries.mapM fun (key, value) => do
        let name ← readText s "a string key" key
        return (name, ← readJson levels (s.member key) value)
      return .ofFields members
    | _ => throw (.fault s.ending)
where
  scalarJson (s : Spot) (tag : Option String) (text : String) (style : ScalarStyle) : Read Json := do
    if (ownTag? tag).isSome then s.fail (.wrongType "enum" anyJson)
    match ← atomOf s tag text style with
    | .null => return .null
    | .bool b => return .bool b
    | .int i => jsonInt s i
    | .float d => return .ofDouble d
    | .text t => return .string t

/-- How many marks and scalars a node is written with. -/
def eventCount : Nat → Node → Nat
  | 0, _ => 1
  | levels + 1, n =>
    match n with
    | .sequence _ items => 2 + (items.map (eventCount levels)).sum
    | .mapping _ entries =>
      2 + (entries.map fun (k, v) => eventCount levels k + eventCount levels v).sum
    | _ => 1

/-- How deep the count goes. -/
def countDepth : Nat := 1000

/-- Reads the one document of a text. -/
def readDocument {α : Type} (text : String) (read : Spot → Node → Read α) : Except String α := do
  let documents := readDocuments .strict text
  let first := documents.headD ⟨.nothing, none⟩
  let ending := first.fault.getD .noDocumentStart
  let spot : Spot := { ending := ending, bound := 100 * eventCount countDepth first.root }
  match (read spot first.root).run 0 with
  | .error p => throw (p.message .strict)
  | .ok (a, _) =>
    if let some f := first.fault then throw (f.message .strict)
    if 1 < documents.length then throw (Fault.message .strict (.manyDocuments documents.length))
    return a

end ScriptHost.Yaml
