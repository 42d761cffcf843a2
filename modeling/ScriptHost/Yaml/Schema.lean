import ScriptHost.Number.Decimal
import ScriptHost.Yaml.Node

/-! What the plain scalars of YAML stand for. The strict dialect knows the core schema; the
relaxed one differs in the spellings that it takes and in the size of integers. -/

namespace ScriptHost.Yaml

/-- What a scalar stands for. -/
inductive Atom where
  | null
  | bool (b : Bool)
  | int (i : Int)
  | float (d : Double)
  | text (s : String)
deriving Repr, Inhabited

def isNullWord (s : String) : Bool := s == "null" || s == "Null" || s == "NULL" || s == "~"

def boolWord? (s : String) : Option Bool :=
  if s == "true" || s == "True" || s == "TRUE" then some true
  else if s == "false" || s == "False" || s == "FALSE" then some false
  else none

/-- Digits after a zero are no number. -/
def isPaddedDigits (cs : List Char) : Bool :=
  match (Decimal.sign cs).2 with
  | '0' :: rest => !rest.isEmpty && rest.all Char.isDigit
  | _ => false

/-- The base that a number announces, and its digits. -/
def announcedBase : List Char → Option (Nat × List Char)
  | '0' :: 'x' :: rest => some (16, rest)
  | '0' :: 'o' :: rest => some (8, rest)
  | '0' :: 'b' :: rest => some (2, rest)
  | _ => none

/-- Integers of up to 128 bits. -/
def strictInt? (cs : List Char) : Option Int :=
  let (negative, body) := Decimal.sign cs
  let magnitude := match announcedBase body with
    | some (base, digits) => Decimal.nat? base digits
    | none => if isPaddedDigits cs then none else Decimal.nat? 10 body
  magnitude.bind fun n =>
    if negative then (if n ≤ Nat.pow 2 127 then some (-(n : Int)) else none)
    else if n < Nat.pow 2 128 then some (n : Int) else none

def isInfinityWord (s : String) : Bool := s == ".inf" || s == ".Inf" || s == ".INF"

def isNanWord (s : String) : Bool := s == ".nan" || s == ".NaN" || s == ".NAN"

def strictFloat? (s : String) : Option Double :=
  let cs := s.toList
  if isNanWord s then some .nan
  else
    let (negative, body) := Decimal.sign cs
    if isInfinityWord (String.ofList body) then some (Double.infinity negative)
    else if isPaddedDigits cs then none
    else (Decimal.double? cs).filter Double.isFinite

/-- What a plain scalar stands for in the strict dialect. -/
def strictAtom (s : String) : Atom :=
  if s.isEmpty || isNullWord s then .null
  else
    match boolWord? s with
    | some b => .bool b
    | none =>
      match strictInt? s.toList with
      | some i => .int i
      | none =>
        match strictFloat? s with
        | some d => .float d
        | none => .text s

/-- Integers of 64 bits. -/
def relaxedInt? (s : String) : Option Int :=
  let fits (i : Int) : Option Int := if -Nat.pow 2 63 ≤ i ∧ i < Nat.pow 2 63 then some i else none
  let based := match s.toList with
    | '0' :: 'x' :: rest => (Decimal.int? 16 rest).bind fits
    | '0' :: 'o' :: rest => (Decimal.int? 8 rest).bind fits
    | _ => none
  based.or ((Decimal.int? 10 s.toList).bind fits)

def relaxedFloat? (s : String) : Option Double :=
  let (negative, body) := Decimal.sign s.toList
  if isInfinityWord (String.ofList body) then some (Double.infinity negative)
  else if isNanWord s then some .nan
  else if s.toList.any Char.isDigit then Decimal.double? s.toList
  else none

/-- What a plain scalar stands for in the relaxed dialect. -/
def relaxedAtom (s : String) : Atom :=
  if s.isEmpty || s == "~" || s == "null" then .null
  else
    match boolWord? s with
    | some b => .bool b
    | none =>
      match relaxedInt? s with
      | some i => .int i
      | none =>
        match relaxedFloat? s with
        | some d => .float d
        | none => .text s

/-- The prefix of the tags that belong to the schema. -/
def schemaTag (name : String) : String := "tag:yaml.org,2002:" ++ name

end ScriptHost.Yaml
