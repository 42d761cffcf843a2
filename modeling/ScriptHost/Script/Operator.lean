import ScriptHost.Script.Convert

/-! The operators of scripts, on values that are computed already. -/

namespace ScriptHost.Script

/-! ### Numbers -/

/-- The remainder of a division that rounds toward zero, exact. -/
def remainder (a b : Double) : Double :=
  if a.isNaN || b.isNaN || a.isInfinite || b.isZero then Double.nan
  else if b.isInfinite || a.isZero then a
  else
    let least := min a.scale b.scale
    let left := a.significand * Nat.pow 2 (a.scale - least).toNat
    let right := b.significand * Nat.pow 2 (b.scale - least).toNat
    Double.ofRatio a.negative (left % right * Nat.pow 2 least.toNat) (Nat.pow 2 (-least).toNat)

/-- A power. Ones raised to what is no finite number are no number. -/
def power (a b : Double) : Double :=
  if b.isNaN then Double.nan
  else if b.isInfinite && (a.numEq (Double.ofNat 1) || a.numEq (Double.ofInt (-1))) then Double.nan
  else Double.ofFloat (a.toFloat.pow b.toFloat)

def negate (d : Double) : Double := ⟨d.bits ^^^ 0x8000000000000000⟩

def plus (a b : Double) : Double := .ofFloat (a.toFloat + b.toFloat)

def minus (a b : Double) : Double := .ofFloat (a.toFloat - b.toFloat)

def lessNumber (a b : Double) : Bool := a.toFloat < b.toFloat

namespace Comp

/-! ### Arithmetic -/

/-- The longest text that there can be. -/
def textBound : Nat := Nat.pow 2 30 - 1

/-- Two texts after each other, if there is room for them. -/
def joinText (a b : Utf16) : Comp Value := do
  let size := a.size + b.size
  if textBound < size then rangeError "invalid string length"
  fits size
  return .string (a ++ b)

/-- The shift of a big integer to the left; a negative count shifts to the right. -/
def shiftBig (i count : Int) : Comp Value := do
  if 0 ≤ count then
    if Nat.pow 2 24 < count ∧ i ≠ 0 then rangeError "Maximum BigInt size exceeded"
    return .bigInt (i * Nat.pow 2 count.toNat)
  else
    let down := (-count).toNat
    if i.natAbs.log2 < down then return .bigInt (if i < 0 then -1 else 0)
    return .bigInt (Int.fdiv i (Nat.pow 2 down))

/-- The bits of integers of any size combined, negative ones as if they had endless
leading ones. -/
def bigBits (op : Nat → Nat → Nat) (a b : Int) : Int :=
  let width := max a.natAbs.log2 b.natAbs.log2 + 2
  let bound : Int := Nat.pow 2 width
  let n : Int := (op (a % bound).toNat (b % bound).toNat % Nat.pow 2 width : Nat)
  if 2 * n < bound then n else n - bound

def bigArithmetic (op : BinaryOp) (a b : Int) : Comp Value := do
  match op with
  | .add => return .bigInt (a + b)
  | .sub => return .bigInt (a - b)
  | .mul => return .bigInt (a * b)
  | .div => if b = 0 then rangeError "division by zero" else return .bigInt (Int.tdiv a b)
  | .rem => if b = 0 then rangeError "division by zero" else return .bigInt (Int.tmod a b)
  | .pow =>
    if b < 0 then rangeError "exponent must be non-negative"
    if a.natAbs ≤ 1 then
      -- the powers of one, zero and minus one go round
      return .bigInt (if b = 0 then 1 else if b % 2 = 0 then a * a else a)
    if Nat.pow 2 24 < (a.natAbs.log2 + 1) * b then rangeError "Maximum BigInt size exceeded"
    return .bigInt (Int.pow a b.toNat)
  | .shiftLeft => shiftBig a b
  | .shiftRight => shiftBig a (-b)
  | .shiftRightZero => typeError "bigint operands are forbidden for >>>"
  | .bitAnd => return .bigInt (bigBits Nat.land a b)
  | .bitOr => return .bigInt (bigBits Nat.lor a b)
  | .bitXor => return .bigInt (bigBits Nat.xor a b)
  | _ => return .undefined

def numberArithmetic (op : BinaryOp) (a b : Double) : Value :=
  let words (f : Nat → Nat → Nat) : Value := .int (signedWord (f (word a) (word b) % UInt32.size))
  let count := word b % 32
  match op with
  | .add => .number (plus a b)
  | .sub => .number (minus a b)
  | .mul => .number (.ofFloat (a.toFloat * b.toFloat))
  | .div => .number (.ofFloat (a.toFloat / b.toFloat))
  | .rem => .number (remainder a b)
  | .pow => .number (power a b)
  | .shiftLeft => .int (signedWord (word a * Nat.pow 2 count % UInt32.size))
  | .shiftRight => .int (Int.fdiv (signedWord (word a)) (Nat.pow 2 count))
  | .shiftRightZero => .nat (word a / Nat.pow 2 count)
  | .bitAnd => words Nat.land
  | .bitOr => words Nat.lor
  | .bitXor => words Nat.xor
  | _ => .undefined

def arithmetic (op : BinaryOp) (a b : Value) : Comp Value := do
  match a, b with
  | .number a, .number b => return numberArithmetic op a b
  | a, b =>
    match ← toNumeric a, ← toNumeric b with
    | .number a, .number b => return numberArithmetic op a b
    | .bigInt a, .bigInt b => bigArithmetic op a b
    | _, _ => typeError "cannot convert to BigInt"

def add (a b : Value) : Comp Value := do
  match a, b with
  | .number a, .number b => return .number (plus a b)
  | .string a, .string b => joinText a b
  | a, b =>
    let a ← toPrimitive a .any
    let b ← toPrimitive b .any
    match a, b with
    | .string _, _ | _, .string _ => joinText (← primitiveText a) (← primitiveText b)
    | a, b => arithmetic .add a b

/-! ### Order -/

/-- The order of an integer and a number. -/
def orderMixed (i : Int) (d : Double) : Option Ordering :=
  if d.isNaN then none
  else if d.isInfinite then some (if d.negative then .gt else .lt)
  else
    let cut := d.truncate
    if i < cut then some .lt
    else if cut < i then some .gt
    else if d.toInt?.isSome then some .eq
    else some (if d.negative then .gt else .lt)

def orderNumbers (a b : Double) : Option Ordering :=
  if lessNumber a b then some .lt
  else if lessNumber b a then some .gt
  else if a.isNaN || b.isNaN then none
  else some .eq

/-- How two values compare, if they do. -/
def order (a b : Value) : Comp (Option Ordering) := do
  match a, b with
  | .number a, .number b => return orderNumbers a b
  | a, b =>
    let a ← toPrimitive a .number
    let b ← toPrimitive b .number
    match a, b with
    | .string s, .string t =>
      return some (if s.less t then .lt else if t.less s then .gt else .eq)
    | .bigInt i, .string (.text s) =>
      match textBigInt? s.toList with
      | some j => return some (compare i j)
      | none => return none
    | .string (.text s), .bigInt j =>
      match textBigInt? s.toList with
      | some i => return some (compare i j)
      | none => return none
    | a, b =>
      match ← toNumeric a, ← toNumeric b with
      | .number a, .number b => return orderNumbers a b
      | .bigInt a, .bigInt b => return some (compare a b)
      | .bigInt a, .number b => return orderMixed a b
      | .number a, .bigInt b => return (orderMixed b a).map Ordering.swap
      | _, _ => return none

/-! ### Classes and types -/

/-- Is an object among the prototypes of a value? -/
def hasPrototype (wanted : Ref) : Nat → Ref → Comp Bool
  | 0, _ => return false
  | limit + 1, r => do
    match ← getPrototype r with
    | some proto => if proto == wanted then return true else hasPrototype wanted limit proto
    | none => return false

def ordinaryInstance (target v : Value) : Comp Bool := do
  unless ← read (·.callable target) do return false
  match target with
  | .object r =>
    match ← read (·.kind r) with
    | .bound inner _ _ =>
      match v with
      | .object _ => return truthy (← invoke (.object inner) WellKnown.hasInstance.key [v])
      | _ => return false
    | _ =>
      match v with
      | .object o =>
        match ← get r "prototype" with
        | .object proto => hasPrototype proto (← read (·.objects.size + 1)) o
        | _ => typeError "operand 'prototype' property is not an object"
      | _ => return false
  | _ => return false

def instanceOf (v target : Value) : Comp Bool := do
  match target with
  | .object _ =>
    match ← getMethod target WellKnown.hasInstance.key with
    | some f => return truthy (← call f target [v])
    | none =>
      unless ← read (·.callable target) do typeError "invalid 'instanceof' right operand"
      ordinaryInstance target v
  | _ => typeError "invalid 'instanceof' right operand"

def typeOf (v : Value) : Comp String := do
  match v with
  | .undefined => return "undefined"
  | .null => return "object"
  | .bool _ => return "boolean"
  | .number _ => return "number"
  | .bigInt _ => return "bigint"
  | .string _ => return "string"
  | .symbol _ => return "symbol"
  | .object r => return if ← read (·.isCallable r) then "function" else "object"

def binary (op : BinaryOp) (a b : Value) : Comp Value := do
  let ordered (test : Ordering → Bool) : Comp Value := do
    return .bool ((← order a b).any test)
  match op with
  | .add => add a b
  | .less => ordered (· == .lt)
  | .lessEq => ordered (· != .gt)
  | .greater => ordered (· == .gt)
  | .greaterEq => ordered (· != .lt)
  | .equal => return .bool (← looseEq a b)
  | .unequal => return .bool !(← looseEq a b)
  | .same => return .bool (strictEq a b)
  | .different => return .bool !(strictEq a b)
  | .instanceOf => return .bool (← instanceOf a b)
  | .isIn =>
    match b with
    | .object r => return .bool (← has r (← toKey a))
    | _ => typeError "invalid 'in' operand"
  | op => arithmetic op a b

def unary (op : UnaryOp) (v : Value) : Comp Value := do
  match op with
  | .plus =>
    match v with
    | .bigInt _ => typeError "bigint argument with unary +"
    | v => return .number (← toNumber v)
  | .minus =>
    match ← toNumeric v with
    | .number d => return .number (negate d)
    | .bigInt i => return .bigInt (-i)
    | v => return v
  | .complement =>
    match ← toNumeric v with
    | .number d => return .int (-(signedWord (word d)) - 1)
    | .bigInt i => return .bigInt (-i - 1)
    | v => return v
  | .invert => return .bool !(truthy v)
  | .discard => return .undefined
  | .typeOf => return .text (← typeOf v)

/-- A number one more or less. -/
def increment (up : Bool) (v : Value) : Value :=
  match v with
  | .number d => .number (if up then plus d (Double.ofNat 1) else minus d (Double.ofNat 1))
  | .bigInt i => .bigInt (if up then i + 1 else i - 1)
  | v => v

end Comp

end ScriptHost.Script
