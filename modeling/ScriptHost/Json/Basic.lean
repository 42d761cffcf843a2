import ScriptHost.Data.Fields
import ScriptHost.Number.Layout

/-! JSON values. Numbers keep their kind: an integer of at most 64 bits is exact and
never equal to a floating-point number, and anything larger or written with a point
or an exponent is a finite double. -/

namespace ScriptHost

inductive Json where
  | null
  | bool (value : Bool)
  /-- An integer from `-2 ^ 63` to `2 ^ 64 - 1`. -/
  | int (value : Int)
  /-- A finite number that is not written as such an integer. -/
  | float (value : Double)
  | string (value : String)
  | array (items : List Json)
  | object (fields : List (String × Json))
deriving Inhabited, Repr

namespace Json

mutual

/-- Equality by kind; floating-point numbers compare as numbers. -/
def beq : Json → Json → Bool
  | .null, .null => true
  | .bool a, .bool b => a == b
  | .int a, .int b => a == b
  | .float a, .float b => a.numEq b
  | .string a, .string b => a == b
  | .array as, .array bs => beqItems as bs
  | .object as, .object bs => beqFields as bs
  | _, _ => false

def beqItems : List Json → List Json → Bool
  | [], [] => true
  | a :: as, b :: bs => a.beq b && beqItems as bs
  | _, _ => false

def beqFields : List (String × Json) → List (String × Json) → Bool
  | [], [] => true
  | (k, a) :: as, (l, b) :: bs => k == l && a.beq b && beqFields as bs
  | _, _ => false

end

instance : BEq Json := ⟨beq⟩

def isNull : Json → Bool
  | .null => true
  | _ => false

def isObject : Json → Bool
  | .object _ => true
  | _ => false

/-- A member of an object; other values have none. -/
def get? : Json → String → Option Json
  | .object fields, name => Fields.get? fields name
  | _, _ => none

def asString? : Json → Option String
  | .string s => some s
  | _ => none

def asBool? : Json → Option Bool
  | .bool b => some b
  | _ => none

/-- The integers that fit 64 bits without a sign. -/
def asNatural? : Json → Option Nat
  | .int i => if 0 ≤ i ∧ i < UInt64.size then some i.toNat else none
  | _ => none

/-- The integers that fit 64 bits with a sign. -/
def asInteger? : Json → Option Int
  | .int i => if -Nat.pow 2 63 ≤ i ∧ i < Nat.pow 2 63 then some i else none
  | _ => none

/-- A number as a JSON value; those that are not finite have none but `null`. -/
def ofDouble (d : Double) : Json := if d.isFinite then .float d else .null

def ofOption (encode : α → Json) : Option α → Json
  | some a => encode a
  | none => .null

/-- An object of named members, in any order. -/
def ofFields (entries : List (String × Json)) : Json := .object (Fields.ofList entries)

/-- Floats in JSON text keep a point or an exponent, so that they read back as
floats: positional from `1e-5` up to but not including `1e16`. -/
def floatLayout : NumberLayout where
  low := -5
  high := 16
  point := true

end Json

end ScriptHost
