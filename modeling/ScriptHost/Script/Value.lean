import ScriptHost.Script.Syntax

/-! Script values, property keys and properties. Objects, symbols and variables live in
the heap and are named by numbers. -/

namespace ScriptHost.Script

/-- An object. -/
abbrev Ref := Nat

/-- A variable. -/
abbrev Cell := Nat

inductive Value where
  | undefined
  | null
  | bool (b : Bool)
  | number (d : Double)
  | bigInt (i : Int)
  | string (s : Utf16)
  | symbol (id : Nat)
  | object (r : Ref)
deriving DecidableEq, Repr, Inhabited

namespace Value

def text (s : String) : Value := .string (.text s)

def int (i : Int) : Value := .number (Double.ofInt i)

def nat (n : Nat) : Value := .number (Double.ofNat n)

def ref? : Value → Option Ref
  | .object r => some r
  | _ => none

def isObject (v : Value) : Bool := v.ref?.isSome

def isUndefined (v : Value) : Bool := v == .undefined

/-- Is it `undefined` or `null`? -/
def isNone : Value → Bool
  | .undefined | .null => true
  | _ => false

def ofOption : Option Value → Value
  | some v => v
  | none => .undefined

end Value

/-- The name of a property. Whole numbers below `2 ^ 32 - 1` are indices however they were
written. -/
inductive Key where
  | index (n : Nat)
  | name (s : Utf16)
  | symbol (id : Nat)
  /-- A private name of a class. -/
  | hidden (id : Nat)
deriving DecidableEq, Repr, Inhabited

namespace Key

/-- The least number that is no index. -/
def indexBound : Nat := UInt32.size - 1

/-- The index that digits write in the shortest way. -/
def index? (s : String) : Option Nat :=
  if s.length = 0 ∨ 10 < s.length then none
  else
    let digits := s.toList
    if digits.all Char.isDigit ∧ (digits = ['0'] ∨ digits.head? ≠ some '0') then
      let n := digits.foldl (fun n c => n * 10 + (c.toNat - '0'.toNat)) 0
      if n < indexBound then some n else none
    else none

def ofText (s : Utf16) : Key :=
  match s with
  | .text t =>
    match index? t with
    | some n => .index n
    | none => .name s
  | s => .name s

def ofString (s : String) : Key := ofText (.text s)

def ofNat (n : Nat) : Key := if n < indexBound then .index n else .name (.text (toString n))

/-- The text of a key that has one. -/
def text? : Key → Option Utf16
  | .index n => some (.text (toString n))
  | .name s => some s
  | _ => none

/-- The key as the script value it came from. -/
def toValue : Key → Value
  | .index n => .text (toString n)
  | .name s => .string s
  | .symbol id | .hidden id => .symbol id

def isText : Key → Bool
  | .index _ | .name _ => true
  | _ => false

instance : Coe String Key := ⟨ofString⟩

end Key

/-- What a property holds. -/
inductive Slot where
  | data (value : Value) (writable : Bool)
  | accessor (get set : Value)
deriving DecidableEq, Repr, Inhabited

structure Property where
  slot : Slot
  enumerable : Bool
  configurable : Bool
deriving DecidableEq, Repr, Inhabited

namespace Property

/-- A property as an assignment makes one. -/
def plain (v : Value) : Property := ⟨.data v true, true, true⟩

/-- A property of the kind that built-in functions are kept in. -/
def hiddenPlain (v : Value) : Property := ⟨.data v true, false, true⟩

/-- A property that nothing can change. -/
def constant (v : Value) : Property := ⟨.data v false, false, false⟩

def value? (p : Property) : Option Value :=
  match p.slot with
  | .data v _ => some v
  | .accessor .. => none

end Property

/-- What a definition of a property asks for; what it leaves open keeps its state, or is
`false` and `undefined` for a new property. -/
structure Definition where
  value : Option Value := none
  writable : Option Bool := none
  get : Option Value := none
  set : Option Value := none
  enumerable : Option Bool := none
  configurable : Option Bool := none
deriving DecidableEq, Repr, Inhabited

namespace Definition

def ofProperty (p : Property) : Definition :=
  match p.slot with
  | .data v writable =>
    { value := some v, writable := some writable, enumerable := some p.enumerable,
      configurable := some p.configurable }
  | .accessor get set =>
    { get := some get, set := some set, enumerable := some p.enumerable,
      configurable := some p.configurable }

def isAccessor (d : Definition) : Bool := d.get.isSome || d.set.isSome

def isData (d : Definition) : Bool := d.value.isSome || d.writable.isSome

/-- The property that a definition makes where there is none. -/
def create (d : Definition) : Property :=
  let slot : Slot :=
    if d.isAccessor then .accessor (d.get.getD .undefined) (d.set.getD .undefined)
    else .data (d.value.getD .undefined) (d.writable.getD false)
  ⟨slot, d.enumerable.getD false, d.configurable.getD false⟩

/-- The property that a definition makes of an older one, if it may. -/
def change (d : Definition) (old : Property) : Option Property :=
  let fixed := !old.configurable
  if fixed && (d.configurable == some true
      || d.enumerable.any (· != old.enumerable)) then none
  else
    let enumerable := d.enumerable.getD old.enumerable
    let configurable := d.configurable.getD old.configurable
    match old.slot with
    | .data v writable =>
      if d.isAccessor then
        if fixed then none
        else some ⟨.accessor (d.get.getD .undefined) (d.set.getD .undefined), enumerable, configurable⟩
      else if fixed && !writable && (d.writable == some true || d.value.any (· != v)) then none
      else some ⟨.data (d.value.getD v) (d.writable.getD writable), enumerable, configurable⟩
    | .accessor get set =>
      if d.isData then
        if fixed then none
        else some ⟨.data (d.value.getD .undefined) (d.writable.getD false), enumerable, configurable⟩
      else if fixed && (d.get.any (· != get) || d.set.any (· != set)) then none
      else some ⟨.accessor (d.get.getD get) (d.set.getD set), enumerable, configurable⟩

end Definition

end ScriptHost.Script
