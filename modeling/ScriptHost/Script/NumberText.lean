import ScriptHost.Number.Layout
import ScriptHost.Script.Token

/-! The numbers of scripts as text, and text as numbers. -/

namespace ScriptHost.Script

/-- Numbers are positional from a millionth up to below `10 ^ 21`. -/
def numberLayout : NumberLayout where
  low := -6
  high := 21
  point := false
  infinite := "Infinity"
  signedZero := false

def numberText (d : Double) : String := numberLayout.render d

/-- The characters without the white space at both ends. -/
def trimSpace (s : List Char) : List Char :=
  ((s.dropWhile isSpace).reverse.dropWhile isSpace).reverse

/-- The decimal number at the front of some characters, with what follows it. -/
def decimalPrefix? (input : List Char) : Option (Double × List Char) :=
  let (negative, input) := match input with
    | '-' :: rest => (true, rest)
    | '+' :: rest => (false, rest)
    | rest => (false, rest)
  if "Infinity".toList.isPrefixOf input then some (Double.infinity negative, input.drop 8)
  else
    let whole := input.takeWhile Char.isDigit
    let rest := input.drop whole.length
    let (fraction, rest) := match rest with
      | '.' :: more =>
        let fraction := more.takeWhile Char.isDigit
        if whole.isEmpty && fraction.isEmpty then ([], rest) else (fraction, more.drop fraction.length)
      | rest => ([], rest)
    if whole.isEmpty && fraction.isEmpty then none
    else
      let (exponent, rest) : Int × List Char := match rest with
        | e :: more =>
          if e = 'e' ∨ e = 'E' then
            let (down, digits) := match more with
              | '-' :: more => (true, more)
              | '+' :: more => (false, more)
              | more => (false, more)
            let found := digits.takeWhile Char.isDigit
            if found.isEmpty then (0, rest)
            else
              let n : Int := digitsValue 10 found
              (if down then -n else n, digits.drop found.length)
          else (0, rest)
        | [] => (0, [])
      some (Double.ofDecimal negative (digitsValue 10 (whole ++ fraction))
        (exponent - fraction.length), rest)

/-- The base that a prefix such as `0x` announces, with the digits after it. -/
def basePrefix? : List Char → Option (Nat × List Char)
  | '0' :: c :: rest =>
    if c = 'x' ∨ c = 'X' then some (16, rest)
    else if c = 'o' ∨ c = 'O' then some (8, rest)
    else if c = 'b' ∨ c = 'B' then some (2, rest)
    else none
  | _ => none

/-- The number that a whole text stands for; not-a-number if it stands for none. -/
def textNumber (s : List Char) : Double :=
  let s := trimSpace s
  if s.isEmpty then Double.zero false
  else
    match basePrefix? s with
    | some (base, digits) =>
      if digits.isEmpty || !digits.all (isDigitOf base) then Double.nan
      else Double.ofNat (digitsValue base digits)
    | none =>
      match decimalPrefix? s with
      | some (d, []) => d
      | _ => Double.nan

/-- The big integer that a whole text stands for. -/
def textBigInt? (s : List Char) : Option Int :=
  let s := trimSpace s
  if s.isEmpty then some 0
  else
    match basePrefix? s with
    | some (base, digits) =>
      if digits.isEmpty || !digits.all (isDigitOf base) then none else some (digitsValue base digits)
    | none =>
      let (negative, digits) := match s with
        | '-' :: rest => (true, rest)
        | '+' :: rest => (false, rest)
        | rest => (false, rest)
      if digits.isEmpty || !digits.all Char.isDigit then none
      else
        let n : Int := digitsValue 10 digits
        some (if negative then -n else n)

/-- Digits of a base up to 36. -/
def digitChar (n : Nat) : Char :=
  if n < 10 then Char.ofNat (48 + n) else Char.ofNat (87 + n)

/-- The digits of a number, most significant first, in at most `limit` places. -/
def natDigits (base : Nat) : Nat → Nat → List Char → List Char
  | 0, _, found => found
  | limit + 1, n, found =>
    let found := digitChar (n % base) :: found
    if n / base = 0 then found else natDigits base limit (n / base) found

def natText (base n : Nat) : String :=
  if base = 10 then toString n else String.ofList (natDigits base (n.log2 + 1) n [])

def intText (base : Nat) (i : Int) : String :=
  (if i < 0 then "-" else "") ++ natText base i.natAbs

/-- The digits after the point of `num / den` in a base, until what is left is smaller than
`slack`, which grows along. The last digit is rounded. -/
def fractionDigits (base : Nat) : Nat → Nat → Nat → Nat → List Nat
  | 0, _, _, _ => []
  | limit + 1, num, den, slack =>
    let digit := num * base / den
    let rest := num * base % den
    let slack := slack * base
    if rest < slack || den - rest < slack then
      if den < 2 * rest || (den == 2 * rest && digit % 2 == 1) then [digit + 1] else [digit]
    else digit :: fractionDigits base limit rest den slack

/-- A finite number in another base than ten. -/
def radixText (base : Nat) (d : Double) : String :=
  let den := Nat.pow 2 (-d.scale).toNat
  let num := d.significand * Nat.pow 2 d.scale.toNat
  let sign := if d.negative && !d.isZero then "-" else ""
  let whole := num / den
  let rest := num % den
  if rest = 0 then sign ++ natText base whole
  else
    let digits := fractionDigits base 1100 (2 * rest) (2 * den) 1
    sign ++ natText base whole ++ "." ++ String.ofList (digits.map digitChar)

/-- A quotient rounded to the nearest integer, a half going up. -/
def roundHalfUp (num den : Nat) : Nat := (2 * num + den) / (2 * den)

/-- The magnitude of a finite number as a quotient. -/
def quotient (d : Double) : Nat × Nat :=
  (d.significand * Nat.pow 2 d.scale.toNat, Nat.pow 2 (-d.scale).toNat)

def zerosText (n : Nat) : String := "".pushn '0' n

/-- A finite number with a fixed number of digits after the point. -/
def fixedText (places : Nat) (d : Double) : String :=
  let (num, den) := quotient d
  let n := roundHalfUp (num * Nat.pow 10 places) den
  let digits := toString n
  let digits := zerosText (places + 1 - digits.length) ++ digits
  let whole := String.ofList (digits.toList.take (digits.length - places))
  let fraction := String.ofList (digits.toList.drop (digits.length - places))
  (if d.negative && !d.isZero then "-" else "") ++ whole
    ++ (if places = 0 then "" else "." ++ fraction)

/-- The digits of a finite number, `count` of them, with the exponent of the first. -/
def leadingDigits (count : Nat) (d : Double) : String × Int :=
  if d.isZero then (zerosText count, 0)
  else
    let (num, den) := quotient d
    let guess : Int := d.shortest.exponent + (toString d.shortest.digits).length - 1
    let scaled (exponent : Int) : Nat :=
      let shift : Int := count - 1 - exponent
      roundHalfUp (num * Nat.pow 10 shift.toNat) (den * Nat.pow 10 (-shift).toNat)
    let tooLong := Nat.pow 10 count
    let exact (exponent : Int) : String × Int :=
      let n := scaled exponent
      if tooLong ≤ n then (toString (n / 10), exponent + 1) else (toString n, exponent)
    if scaled guess < Nat.pow 10 (count - 1) then exact (guess - 1) else exact guess

def exponentText (digits : String) (exponent : Int) : String :=
  NumberLayout.scientific digits exponent

end ScriptHost.Script
