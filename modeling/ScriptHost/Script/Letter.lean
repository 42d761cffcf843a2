import ScriptHost.Text.Letter

/-! The characters of identifiers, of white space and of digits in scripts. -/

namespace ScriptHost.Script

open Text (isLetterBeyondAscii)

def isNameStart (c : Char) : Bool :=
  c.isAlpha || c = '_' || c = '$' || isLetterBeyondAscii c

def isNamePart (c : Char) : Bool :=
  c.isAlphanum || c = '_' || c = '$' || c.toNat = 0x200C || c.toNat = 0x200D
    || isLetterBeyondAscii c

/-- The ends of lines. -/
def isLineEnd (c : Char) : Bool :=
  c = '\n' || c = '\r' || c.toNat = 0x2028 || c.toNat = 0x2029

/-- White space between tokens and around numbers in text: the Unicode property without
the next-line character, and the byte order mark. -/
def isSpace (c : Char) : Bool :=
  (Text.isBlank c && c.toNat != 0x85) || c.toNat = 0xFEFF

/-- The value of a digit of a base up to 36. -/
def digitValue? (base : Nat) (c : Char) : Option Nat :=
  let value :=
    if c.isDigit then c.toNat - '0'.toNat
    else if 'a' ≤ c ∧ c ≤ 'z' then c.toNat - 'a'.toNat + 10
    else if 'A' ≤ c ∧ c ≤ 'Z' then c.toNat - 'A'.toNat + 10
    else base
  if value < base then some value else none

def isDigitOf (base : Nat) (c : Char) : Bool := (digitValue? base c).isSome

/-- The number that digits of a base spell. -/
def digitsValue (base : Nat) (digits : List Char) : Nat :=
  digits.foldl (fun n c => n * base + (digitValue? base c).getD 0) 0

end ScriptHost.Script
