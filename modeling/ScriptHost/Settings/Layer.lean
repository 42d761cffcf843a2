import ScriptHost.Yaml.Decode

/-! Settings as they are written down, before anybody knows their types. Every value
remembers the source that it comes from. Layers are laid over each other: tables are
joined key by key, and anything else takes the place of what was there. -/

namespace ScriptHost

open Yaml (Atom)

inductive Layer where
  | atom (origin : Option String) (value : Atom)
  | list (origin : Option String) (items : List Layer)
  | table (origin : Option String) (entries : List (String × Layer))
deriving Inhabited, Repr

namespace Layer

/-- A value that nobody wrote. -/
def nothing : Layer := .atom none .null

def empty : Layer := .table none []

def origin : Layer → Option String
  | .atom origin _ => origin
  | .list origin _ => origin
  | .table origin _ => origin

def isNull : Layer → Bool
  | .atom _ .null => true
  | _ => false

/-- The entries of a table. -/
def entries : Layer → List (String × Layer)
  | .table _ entries => entries
  | _ => []

/-- The items of a list. -/
def items : Layer → List Layer
  | .list _ items => items
  | _ => []

/-- What a table has under a key. -/
def member (layer : Layer) (key : String) : Layer :=
  (layer.entries.lookup key).getD nothing

/-- Puts a value under a key. What is no table becomes one. -/
def put (layer : Layer) (key : String) (value : Layer) : Layer :=
  let put (entries : List (String × Layer)) : List (String × Layer) :=
    if entries.any fun entry => entry.1 == key then
      entries.map fun entry => if entry.1 == key then (key, value) else entry
    else entries ++ [(key, value)]
  match layer with
  | .table origin entries => .table origin (put entries)
  | _ => .table none (put [])

mutual

/-- Lays a value over another one. An empty table changes nothing but a lack of a value. -/
def lay (under : Layer) : Layer → Layer
  | .table _ entries => layEntries (if under.isNull then empty else under) entries
  | value => value

def layEntries (under : Layer) : List (String × Layer) → Layer
  | [] => under
  | (key, value) :: rest => layEntries (under.put key (lay (under.member key) value)) rest

end

/-- A step from a value to a part of it. -/
inductive Step where
  | key (name : String)
  /-- Negative ones count from the end. -/
  | index (i : Int)
deriving DecidableEq, Repr

/-- Lays a value over what is at the end of a path. What stands in the way gives way, and
a list grows as far as needed, at its beginning if the index lies before it. -/
def layAt (under value : Layer) : List Step → Layer
  | [] => lay under value
  | .key name :: path => under.put name (layAt (under.member name) value path)
  | .index i :: path =>
    let items := under.items
    let (front, place) : Nat × Nat :=
      if 0 ≤ i then (0, i.toNat)
      else if i.natAbs ≤ items.length then (0, items.length - i.natAbs)
      else (i.natAbs - items.length, 0)
    let items := List.replicate front nothing ++ items
    let items := items ++ List.replicate (place + 1 - items.length) nothing
    let origin := if under matches .list .. then under.origin else none
    .list origin (items.modify place fun item => layAt item value path)

/-! ### Keys as paths -/

def isNameChar (c : Char) : Bool := c.isAlphanum || c == '_' || c == '-'

/-- A name at the front of a text. -/
def readName (cs : List Char) : Option (String × List Char) :=
  let name := cs.takeWhile isNameChar
  if name.isEmpty then none else some (String.ofList name, cs.drop name.length)

/-- An index at the front of a text, up to the closing bracket. -/
def readIndex (cs : List Char) : Option (Int × List Char) := do
  let cs := cs.dropWhile Yaml.isBlank
  let (negative, digits) := match cs with
    | '-' :: rest => (true, rest)
    | rest => (false, rest)
  let n ← Decimal.nat? 10 (digits.takeWhile Char.isDigit)
  let rest := (digits.dropWhile Char.isDigit).dropWhile Yaml.isBlank
  match rest with
  | ']' :: rest =>
    if n < Nat.pow 2 63 then some (if negative then -(n : Int) else n, rest) else none
  | _ => none

def readSteps : Nat → List Char → Option (List Step)
  | 0, _ => none
  | _, [] => some []
  | fuel + 1, '.' :: rest => do
    let (name, rest) ← readName rest
    return Step.key name :: (← readSteps fuel rest)
  | fuel + 1, '[' :: rest => do
    let (i, rest) ← readIndex rest
    return Step.index i :: (← readSteps fuel rest)
  | _, _ => none

/-- The path that a key is short for: names with points between them, and indices in
brackets. Any other key names itself. -/
def path (key : String) : List Step :=
  let parsed := do
    let (name, rest) ← readName key.toList
    return Step.key name :: (← readSteps (rest.length + 1) rest)
  parsed.getD [Step.key key]

/-- Lays the entries of a source over what the sources before it say. -/
def addSource (under : Layer) (entries : List (String × Layer)) : Layer :=
  entries.foldl (fun under entry => under.layAt entry.2 (path entry.1)) under

end Layer

end ScriptHost
