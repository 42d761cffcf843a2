import ScriptHost.Number.Double

/-! The fewest decimal digits that read back as a given finite number, and how they are
set down. The reals that round to the number form an interval; decimal grids are tried
from coarse to fine, and the first grid with a point of the interval next to the value
gives the digits. Everything is decided in exact integer arithmetic.

A layout says which exponents are written positionally and how the other ones are
marked; the formats of this library differ in nothing else. -/

namespace ScriptHost.Double

/-- Decimal digits and the exponent of their last place: `digits * 10 ^ exponent`. -/
structure Decimal where
  digits : Nat
  exponent : Int
deriving DecidableEq, Repr

/-- The reals that round to a number, in quarters of its unit: the value and the
distances to the two ends, and whether the ends belong to it. -/
structure Basin where
  value : Nat
  below : Nat
  above : Nat
  closed : Bool
  /-- The power of two of a quarter unit. -/
  scale : Int

/-- The interval around a finite positive number. The lower neighbour of a power
of two is only half as far away. -/
def basin (d : Double) : Basin where
  value := 4 * d.significand
  below := if d.fractionField = 0 ∧ 1 < d.exponentField then 1 else 2
  above := 2
  closed := d.significand % 2 == 0
  scale := d.scale - 2

/-- The point of the grid `10 ^ exponent` next to the value that lies in the
interval, the nearer one if both do, and the even one on a tie. -/
def Basin.gridPoint? (b : Basin) (exponent : Int) : Option Nat :=
  let unit := Nat.pow 2 b.scale.toNat * Nat.pow 10 (-exponent).toNat
  let step := Nat.pow 2 (-b.scale).toNat * Nat.pow 10 exponent.toNat
  let value := b.value * unit
  let lower := value / step
  let down := value - lower * step
  let up := (lower + 1) * step - value
  let inside (distance bound : Nat) : Bool :=
    if b.closed then distance ≤ bound * unit else distance < bound * unit
  let lowerIn := lower != 0 && inside down b.below
  let upperIn := inside up b.above
  match lowerIn, upperIn with
  | true, true =>
    if down < up then some lower
    else if up < down then some (lower + 1)
    else some (lower + lower % 2)
  | true, false => some lower
  | false, true => some (lower + 1)
  | false, false => none

/-- The first grid from `exponent` downward that has a point, with that point. -/
def Basin.firstGrid (b : Basin) : Nat → Int → Decimal
  | 0, exponent => ⟨b.value, exponent⟩
  | steps + 1, exponent =>
    match b.gridPoint? exponent with
    | some digits => ⟨digits, exponent⟩
    | none => b.firstGrid steps (exponent - 1)

/-- The shortest decimal that reads back as the magnitude of a finite non-zero
number, the nearest to it of those. Twenty grids always suffice: the first lies
at or above the leading digit, and seventeen digits tell any two numbers apart. -/
def shortest (d : Double) : Decimal :=
  let size : Int := (d.significand.log2 : Int) + 1 + d.scale
  d.basin.firstGrid 22 (size * 30103 / 100000 + 1)

end ScriptHost.Double

namespace ScriptHost

/-- The decisions of a number format. Exponents are those of the leading digit. -/
structure NumberLayout where
  /-- Positional from this exponent on. -/
  low : Int
  /-- Positional below this exponent. -/
  high : Int
  /-- Does a positional integer get a `.0`? -/
  point : Bool
  /-- Texts of the values that have no digits. -/
  notANumber : String := "NaN"
  infinite : String := "inf"
  /-- Is the sign of a negative zero kept? -/
  signedZero : Bool := true

namespace NumberLayout

private def zeros (n : Nat) : String := "".pushn '0' n

/-- Digits whose leading one has the weight `10 ^ exponent`, written positionally. -/
def positional (layout : NumberLayout) (digits : String) (exponent : Int) : String :=
  let count : Int := digits.length
  if exponent < 0 then "0." ++ zeros (-exponent - 1).toNat ++ digits
  else if count ≤ exponent + 1 then
    digits ++ zeros (exponent + 1 - count).toNat ++ (if layout.point then ".0" else "")
  else
    let whole := (exponent + 1).toNat
    String.ofList (digits.toList.take whole) ++ "." ++ String.ofList (digits.toList.drop whole)

/-- Digits with an exponent mark: one digit, a point if more follow, then the
signed exponent. -/
def scientific (digits : String) (exponent : Int) : String :=
  let mantissa := match digits.toList with
    | [] => ""
    | [d] => String.ofList [d]
    | d :: rest => String.ofList (d :: '.' :: rest)
  mantissa ++ (if exponent < 0 then "e-" else "e+") ++ toString exponent.natAbs

/-- A magnitude in a layout. -/
def magnitude (layout : NumberLayout) (d : Double) : String :=
  if d.isZero then (if layout.point then "0.0" else "0")
  else
    let short := d.shortest
    let digits := toString short.digits
    let exponent := short.exponent + digits.length - 1
    if layout.low ≤ exponent ∧ exponent < layout.high then layout.positional digits exponent
    else scientific digits exponent

/-- The text of a number in a layout. -/
def render (layout : NumberLayout) (d : Double) : String :=
  if d.isNaN then layout.notANumber
  else
    let sign := if d.negative && (layout.signedZero || !d.isZero) then "-" else ""
    sign ++ (if d.isInfinite then layout.infinite else layout.magnitude d)

/-- Bounds beyond the exponent of any finite number: always positional. -/
def unbounded : Int := 400

end NumberLayout

end ScriptHost
