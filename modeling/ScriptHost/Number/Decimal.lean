import ScriptHost.Number.Double

/-! Numbers as people write them: decimal digits with a sign, a point and an exponent as
far as they are wanted, and integers in other bases. -/

namespace ScriptHost.Decimal

/-- The number that digits of a base write. -/
def natOfDigits (base : Nat) (digits : List Nat) : Nat := digits.foldl (fun n d => n * base + d) 0

/-- The worth of a digit in bases up to 36. -/
def digitOf? (c : Char) : Option Nat :=
  if c.isDigit then some (c.toNat - '0'.toNat)
  else if 'a' ≤ c && c ≤ 'z' then some (c.toNat - 'a'.toNat + 10)
  else if 'A' ≤ c && c ≤ 'Z' then some (c.toNat - 'A'.toNat + 10)
  else none

/-- A natural number in a base: digits and nothing else. -/
def nat? (base : Nat) (cs : List Char) : Option Nat := do
  let digits ← cs.mapM digitOf?
  if digits.isEmpty || digits.any (base ≤ ·) then none else some (natOfDigits base digits)

/-- A sign and what follows it. -/
def sign (cs : List Char) : Bool × List Char :=
  match cs with
  | '-' :: rest => (true, rest)
  | '+' :: rest => (false, rest)
  | rest => (false, rest)

/-- An integer with a sign or without one. -/
def int? (base : Nat) (cs : List Char) : Option Int :=
  let (negative, digits) := sign cs
  (nat? base digits).map fun n => if negative then -(n : Int) else n

/-- The exponent after its mark; none if it is not well formed. -/
def exponent? : List Char → Option Int
  | [] => some 0
  | e :: rest => if e == 'e' || e == 'E' then int? 10 rest else none

/-- A decimal number. Digits are needed, before the point or after it. -/
def double? (cs : List Char) : Option Double :=
  let (negative, body) := sign cs
  let word := (String.ofList body).toLower
  if word == "inf" || word == "infinity" then some (Double.infinity negative)
  else if word == "nan" then some .nan
  else
    let whole := body.takeWhile Char.isDigit
    let rest := body.drop whole.length
    let (fraction, rest) := match rest with
      | '.' :: more => (more.takeWhile Char.isDigit, more.dropWhile Char.isDigit)
      | rest => ([], rest)
    if whole.isEmpty && fraction.isEmpty then none
    else do
      let exponent ← exponent? rest
      let digits := natOfDigits 10 ((whole ++ fraction).filterMap digitOf?)
      some (Double.ofDecimal negative digits (exponent - fraction.length))

end ScriptHost.Decimal
