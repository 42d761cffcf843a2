/-! Binary floating-point numbers of 64 bits, held as their bit pattern. A finite
pattern stands for an integer significand times a power of two, so exact values,
rounding and integrality are decided by integer arithmetic alone. -/

namespace ScriptHost

/-- A 64-bit binary floating-point number, as its bits: sign, 11 exponent bits,
52 fraction bits. Two numbers are equal here when their bits are. -/
structure Double where
  bits : UInt64
deriving DecidableEq, Repr, Hashable

namespace Double

instance : Inhabited Double := ⟨⟨0⟩⟩

/-- Is the sign bit set? -/
def negative (d : Double) : Bool := decide (Nat.pow 2 63 ≤ d.bits.toNat)

/-- The exponent field, between 0 and 2047. -/
def exponentField (d : Double) : Nat := d.bits.toNat / Nat.pow 2 52 % Nat.pow 2 11

/-- The fraction field, below `2 ^ 52`. -/
def fractionField (d : Double) : Nat := d.bits.toNat % Nat.pow 2 52

def isNaN (d : Double) : Bool := d.exponentField == 2047 && d.fractionField != 0

def isInfinite (d : Double) : Bool := d.exponentField == 2047 && d.fractionField == 0

def isFinite (d : Double) : Bool := d.exponentField != 2047

/-- The integer significand of a finite number: its magnitude is
`significand * 2 ^ scale`. -/
def significand (d : Double) : Nat :=
  if d.exponentField = 0 then d.fractionField else Nat.pow 2 52 + d.fractionField

/-- The power of two that scales the significand. -/
def scale (d : Double) : Int := (Nat.max d.exponentField 1 : Int) - 1075

def isZero (d : Double) : Bool := d.exponentField == 0 && d.fractionField == 0

def isNegativeZero (d : Double) : Bool := d.negative && d.isZero

/-- The number with the given sign and remaining 63 bits. -/
def ofMagnitude (negative : Bool) (magnitude : Nat) : Double :=
  ⟨UInt64.ofNat ((if negative then Nat.pow 2 63 else 0) + magnitude)⟩

def zero (negative : Bool) : Double := ofMagnitude negative 0

def infinity (negative : Bool) : Double := ofMagnitude negative (2047 * Nat.pow 2 52)

def nan : Double := ⟨0x7ff8000000000000⟩

/-- The nearest integer to `num / den`, a half going to the even neighbour. -/
def roundHalfEven (num den : Nat) : Nat :=
  let quotient := num / den
  let rest := num % den
  if 2 * rest < den then quotient
  else if den < 2 * rest then quotient + 1
  else quotient + quotient % 2

/-- The power of two that gives `num / den` a significand of 53 bits, or the
least power there is. -/
def scaleOfRatio (num den : Nat) : Int :=
  let guess : Int := (num.log2 : Int) - den.log2 - 53
  let quotient := (num * Nat.pow 2 (-guess).toNat) / (den * Nat.pow 2 guess.toNat)
  max (-1074) (if Nat.pow 2 53 ≤ quotient then guess + 1 else guess)

/-- The number nearest to `num / den`, a half going to the even significand.
The significand is added to the exponent field, so a carry out of it moves to
the next power of two by itself. -/
def ofRatio (negative : Bool) (num den : Nat) : Double :=
  if num = 0 then zero negative
  else
    let scale := scaleOfRatio num den
    let significand := roundHalfEven (num * Nat.pow 2 (-scale).toNat) (den * Nat.pow 2 scale.toNat)
    let magnitude := (scale + 1074).toNat * Nat.pow 2 52 + significand
    if 2047 * Nat.pow 2 52 ≤ magnitude then infinity negative else ofMagnitude negative magnitude

/-- The number nearest to an integer. -/
def ofInt (i : Int) : Double := ofRatio (i < 0) i.natAbs 1

def ofNat (n : Nat) : Double := ofRatio false n 1

/-- The number nearest to `digits * 10 ^ exponent`. Exponents that put the value
far outside the range of finite numbers are settled without raising ten to them. -/
def ofDecimal (negative : Bool) (digits : Nat) (exponent : Int) : Double :=
  if digits = 0 then zero negative
  else
    let size : Int := (digits.log2 : Int) * 30103 / 100000 + exponent
    if 400 < size then infinity negative
    else if size < -400 then zero negative
    else ofRatio negative (digits * Nat.pow 10 exponent.toNat) (Nat.pow 10 (-exponent).toNat)

/-- The integer a number stands for, when it stands for one. -/
def toInt? (d : Double) : Option Int :=
  if d.isFinite then
    let up := Nat.pow 2 d.scale.toNat
    let down := Nat.pow 2 (-d.scale).toNat
    if d.significand % down = 0 then
      let magnitude := d.significand * up / down
      some (if d.negative then -magnitude else magnitude)
    else none
  else none

/-- A finite number cut to its integer part, toward zero. -/
def truncate (d : Double) : Int :=
  let magnitude := d.significand * Nat.pow 2 d.scale.toNat / Nat.pow 2 (-d.scale).toNat
  if d.negative then -magnitude else magnitude

/-- The product of two finite numbers, rounded to nearest. -/
def mul (a b : Double) : Double :=
  let scale := a.scale + b.scale
  ofRatio (a.negative != b.negative) (a.significand * b.significand * Nat.pow 2 scale.toNat)
    (Nat.pow 2 (-scale).toNat)

/-- The quotient of a finite number by a finite non-zero one, rounded to nearest. -/
def div (a b : Double) : Double :=
  let scale := a.scale - b.scale
  ofRatio (a.negative != b.negative) (a.significand * Nat.pow 2 scale.toNat)
    (b.significand * Nat.pow 2 (-scale).toNat)

/-- Numeric equality: a NaN differs from itself and the two zeros are equal. -/
def numEq (a b : Double) : Bool :=
  !a.isNaN && !b.isNaN && (a.bits == b.bits || (a.isZero && b.isZero))

/-- The machine number with the same bits. -/
@[inline] def toFloat (d : Double) : Float := Float.ofBits d.bits

/-- The bits of a machine number. -/
@[inline] def ofFloat (f : Float) : Double := ⟨f.toBits⟩

end Double

end ScriptHost
