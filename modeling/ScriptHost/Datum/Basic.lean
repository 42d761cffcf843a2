import ScriptHost.Data.Fields
import ScriptHost.Number.Double

/-! Data as they cross the border of an engine: copies of script values that hold no
reference into it. A function stays behind and is named by an id. -/

namespace ScriptHost

/-- The id of a function kept alive inside one engine, and the function's name. -/
structure FunctionHandle where
  id : UInt64
  name : Option String
deriving DecidableEq, Repr, Inhabited

/-- What a call is aimed at: a dotted path from the global object, or a function that
an engine kept. -/
inductive FunctionRef where
  | path (path : String)
  | retained (id : UInt64)
deriving DecidableEq, Repr, Inhabited

/-- A script value copied out of an engine or into one. The fields of an object are in
ascending order of their names. -/
inductive Datum where
  | undefined
  | null
  | bool (value : Bool)
  | int (value : Int64)
  | float (value : Double)
  /-- Decimal digits, with a sign or without. -/
  | bigInt (digits : String)
  | string (value : String)
  | array (items : List Datum)
  | object (fields : List (String × Datum))
  | function (handle : FunctionHandle)
deriving Inhabited, Repr

namespace Datum

mutual

/-- Equality as numbers compare: a NaN differs from itself, the zeros are equal. -/
def beq : Datum → Datum → Bool
  | .undefined, .undefined => true
  | .null, .null => true
  | .bool a, .bool b => a == b
  | .int a, .int b => a == b
  | .float a, .float b => a.numEq b
  | .bigInt a, .bigInt b => a == b
  | .string a, .string b => a == b
  | .array as, .array bs => beqItems as bs
  | .object as, .object bs => beqFields as bs
  | .function a, .function b => a == b
  | _, _ => false

def beqItems : List Datum → List Datum → Bool
  | [], [] => true
  | a :: as, b :: bs => a.beq b && beqItems as bs
  | _, _ => false

def beqFields : List (String × Datum) → List (String × Datum) → Bool
  | [], [] => true
  | (k, a) :: as, (l, b) :: bs => k == l && a.beq b && beqFields as bs
  | _, _ => false

end

instance : BEq Datum := ⟨beq⟩

/-- The largest integer below which every integer is a double: `2 ^ 53 - 1`. -/
def maxSafeInteger : Nat := Nat.pow 2 53 - 1

/-- A number, as an integer when it is one of at most 53 bits; a negative zero is not. -/
def ofDouble (d : Double) : Datum :=
  match d.toInt? with
  | some i =>
    if i.natAbs ≤ maxSafeInteger ∧ !d.isNegativeZero then .int (Int64.ofInt i) else .float d
  | none => .float d

def asInt? : Datum → Option Int64
  | .int i => some i
  | _ => none

def asString? : Datum → Option String
  | .string s => some s
  | _ => none

def asBool? : Datum → Option Bool
  | .bool b => some b
  | _ => none

def asFunction? : Datum → Option FunctionHandle
  | .function f => some f
  | _ => none

/-- A natural number that an integer datum stands for. -/
def asNat? (d : Datum) : Option Nat :=
  d.asInt?.bind fun i => if 0 ≤ i.toInt then some i.toInt.toNat else none

mutual

/-- How many values a datum holds, itself counted. -/
def nodes : Datum → Nat
  | .array items => 1 + nodesOfItems items
  | .object fields => 1 + nodesOfFields fields
  | _ => 1

def nodesOfItems : List Datum → Nat
  | [] => 0
  | item :: rest => item.nodes + nodesOfItems rest

def nodesOfFields : List (String × Datum) → Nat
  | [] => 0
  | (_, value) :: rest => value.nodes + nodesOfFields rest

end

end Datum

end ScriptHost
