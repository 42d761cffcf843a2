import ScriptHost.Json.Basic

/-! Reading JSON text. Every reader takes the characters that are left and gives what
it read with the characters after it, or the first fault in reading order. A value may
be nested at most 127 levels deep. Floating-point numbers are read by scaling the first
nineteen or so digits with one power of ten, so the last bit of a long decimal may
differ from the nearest double. -/

namespace ScriptHost.Json

/-- What can be wrong with JSON text. -/
inductive Fault where
  | endInList
  | endInObject
  | endInString
  | endInValue
  | expectedColon
  | expectedListCommaOrEnd
  | expectedObjectCommaOrEnd
  | expectedIdent
  | expectedValue
  | invalidEscape
  | invalidNumber
  | numberOutOfRange
  | invalidUnicode
  | controlCharacter
  | keyMustBeString
  | loneSurrogate
  | trailingComma
  | trailingCharacters
  | unfinishedHexEscape
  | tooDeep
deriving DecidableEq, Repr

def Fault.message : Fault → String
  | .endInList => "EOF while parsing a list"
  | .endInObject => "EOF while parsing an object"
  | .endInString => "EOF while parsing a string"
  | .endInValue => "EOF while parsing a value"
  | .expectedColon => "expected `:`"
  | .expectedListCommaOrEnd => "expected `,` or `]`"
  | .expectedObjectCommaOrEnd => "expected `,` or `\x7d`"
  | .expectedIdent => "expected ident"
  | .expectedValue => "expected value"
  | .invalidEscape => "invalid escape"
  | .invalidNumber => "invalid number"
  | .numberOutOfRange => "number out of range"
  | .invalidUnicode => "invalid unicode code point"
  | .controlCharacter =>
    "control character (\\u0000-\\u001F) found while parsing a string"
  | .keyMustBeString => "key must be a string"
  | .loneSurrogate => "lone leading surrogate in hex escape"
  | .trailingComma => "trailing comma"
  | .trailingCharacters => "trailing characters"
  | .unfinishedHexEscape => "unexpected end of hex escape"
  | .tooDeep => "recursion limit exceeded"

/-- A result with the characters after it. -/
abbrev Read (α : Type) := Except Fault (α × List Char)

def isBlank (c : Char) : Bool := c == ' ' || c == '\n' || c == '\t' || c == '\r'

def skipBlanks (cs : List Char) : List Char := cs.dropWhile isBlank

/-- The rest of a word whose first letter is read. -/
def readWord : List Char → List Char → Except Fault (List Char)
  | [], cs => .ok cs
  | _ :: _, [] => .error .endInValue
  | w :: ws, c :: cs => if c = w then readWord ws cs else .error .expectedIdent

def hexValue? (c : Char) : Option Nat :=
  if '0' ≤ c ∧ c ≤ '9' then some (c.toNat - '0'.toNat)
  else if 'a' ≤ c ∧ c ≤ 'f' then some (c.toNat - 'a'.toNat + 10)
  else if 'A' ≤ c ∧ c ≤ 'F' then some (c.toNat - 'A'.toNat + 10)
  else none

/-- Four hexadecimal digits. -/
def readHex4 : List Char → Read Nat
  | a :: b :: c :: d :: rest =>
    match hexValue? a, hexValue? b, hexValue? c, hexValue? d with
    | some a, some b, some c, some d => .ok (a * 4096 + b * 256 + c * 16 + d, rest)
    | _, _, _, _ => .error .invalidEscape
  | _ => .error .endInString

/-- The character of a `\u` escape, after the `u`; a leading surrogate needs its
trailing one. -/
def readUnicodeEscape (cs : List Char) : Read Char :=
  match readHex4 cs with
  | .error e => .error e
  | .ok (high, rest) =>
    if 0xDC00 ≤ high ∧ high ≤ 0xDFFF then .error .loneSurrogate
    else if ¬(0xD800 ≤ high ∧ high ≤ 0xDBFF) then .ok (Char.ofNat high, rest)
    else
      match rest with
      | [] | ['\\'] => .error .endInString
      | '\\' :: 'u' :: rest =>
        match readHex4 rest with
        | .error e => .error e
        | .ok (low, rest) =>
          if low < 0xDC00 ∨ 0xDFFF < low then .error .loneSurrogate
          else .ok (Char.ofNat (0x10000 + (high - 0xD800) * 0x400 + (low - 0xDC00)), rest)
      | _ => .error .unfinishedHexEscape

/-- The character of an escape, after the backslash. -/
def readEscape : List Char → Read Char
  | [] => .error .endInString
  | 'u' :: rest => readUnicodeEscape rest
  | c :: rest =>
    if c = '"' ∨ c = '\\' ∨ c = '/' then .ok (c, rest)
    else if c = 'b' then .ok (Char.ofNat 8, rest)
    else if c = 'f' then .ok (Char.ofNat 12, rest)
    else if c = 'n' then .ok ('\n', rest)
    else if c = 'r' then .ok ('\r', rest)
    else if c = 't' then .ok ('\t', rest)
    else .error .invalidEscape

/-- The characters of a string after its opening quote. The first argument bounds the
number of characters. -/
def readChars : Nat → String → List Char → Read String
  | 0, _, _ => .error .endInString
  | _ + 1, _, [] => .error .endInString
  | fuel + 1, text, c :: rest =>
    if c = '"' then .ok (text, rest)
    else if c = '\\' then
      match readEscape rest with
      | .ok (c, rest) => readChars fuel (text.push c) rest
      | .error e => .error e
    else if c.toNat < 32 then .error .controlCharacter
    else readChars fuel (text.push c) rest

/-- A string after its opening quote. -/
def readString (cs : List Char) : Read String := readChars (cs.length + 1) "" cs

/-- Is the opening of the text a digit? -/
def startsWithDigit : List Char → Bool
  | c :: _ => c.isDigit
  | [] => false

/-- A number from a sign, a significand and a power of ten, by one correctly rounded
multiplication or division after the significand is rounded. Powers below the least
are divided out in parts. -/
def scaleDecimal (negative : Bool) (significand : Nat) (exponent : Int) :
    Except Fault Double :=
  let start := Double.ofNat significand
  let result :=
    if start.isZero then some start
    else if 308 < exponent then none
    else if 0 ≤ exponent then
      let product := start.mul (Double.ofNat (Nat.pow 10 exponent.toNat))
      if product.isInfinite then none else some product
    else
      let places := (-exponent).toNat
      let rec shrink : Nat → Double → Double
        | 0, value => value
        | times + 1, value => shrink times (value.div (Double.ofNat (Nat.pow 10 308)))
      let rounds := (places - 1) / 308
      let value := shrink (min rounds 3) start
      if 3 < rounds then some (Double.zero false)
      else some (value.div (Double.ofNat (Nat.pow 10 (places - 308 * rounds))))
  match result with
  | some value => .ok (if negative then Double.ofMagnitude true value.bits.toNat else value)
  | none => .error .numberOutOfRange

/-- The digits at the front, as many as keep the significand below `2 ^ 64`; gives the
significand and how many digits it took. -/
def takeDigits (significand count : Nat) : List Char → Nat × Nat × List Char
  | [] => (significand, count, [])
  | c :: rest =>
    if c.isDigit then
      let next := significand * 10 + (c.toNat - '0'.toNat)
      if next < UInt64.size then takeDigits next (count + 1) rest
      else (significand, count, c :: rest)
    else (significand, count, c :: rest)

/-- Digits of an exponent; beyond 31 bits only their presence matters. -/
def readExponentDigits (value : Nat) : List Char → Nat × List Char
  | [] => (value, [])
  | c :: rest =>
    if c.isDigit then
      readExponentDigits (min (value * 10 + (c.toNat - '0'.toNat)) (Nat.pow 2 31)) rest
    else (value, c :: rest)

/-- An exponent after its `e`. -/
def readExponent (negative : Bool) (significand : Nat) (start : Int) (cs : List Char) :
    Read Json :=
  let (down, cs) := match cs with
    | '-' :: rest => (true, rest)
    | '+' :: rest => (false, rest)
    | _ => (false, cs)
  if cs.isEmpty then .error .endInValue
  else if !startsWithDigit cs then .error .invalidNumber
  else
    let (value, rest) := readExponentDigits 0 cs
    if value < Nat.pow 2 31 then
      let exponent := if down then start - value else start + value
      (scaleDecimal negative significand exponent).map (.float ·, rest)
    else if significand ≠ 0 ∧ !down then .error .numberOutOfRange
    else .ok (.float (Double.zero negative), rest)

/-- What may follow the digits of a floating-point number. -/
def finishFloat (negative : Bool) (significand : Nat) (exponent : Int) (cs : List Char) :
    Read Json :=
  match cs with
  | 'e' :: rest | 'E' :: rest => readExponent negative significand exponent rest
  | _ => (scaleDecimal negative significand exponent).map (.float ·, cs)

/-- The fraction after a point. Digits beyond the significand's room are passed over. -/
def readFraction (negative : Bool) (significand : Nat) (exponent : Int) (cs : List Char) :
    Read Json :=
  let (significand, count, rest) := takeDigits significand 0 cs
  if count = 0 ∧ !startsWithDigit rest then
    .error (if rest.isEmpty then .endInValue else .invalidNumber)
  else finishFloat negative significand (exponent - count) (rest.dropWhile Char.isDigit)

/-- A number after its sign. An integer that fits 64 bits stays one; `-0` does not. -/
def readNumber (negative : Bool) (cs : List Char) : Read Json :=
  match cs with
  | '0' :: c :: rest =>
    if c.isDigit then .error .invalidNumber else finish 0 (c :: rest)
  | '0' :: [] => finish 0 []
  | c :: _ =>
    if c.isDigit then
      let (significand, _, rest) := takeDigits 0 0 cs
      if startsWithDigit rest then
        let extra := (rest.takeWhile Char.isDigit).length
        let rest := rest.dropWhile Char.isDigit
        match rest with
        | '.' :: rest => readFraction negative significand extra rest
        | _ => finishFloat negative significand extra rest
      else finish significand rest
    else .error .invalidNumber
  | [] => .error .invalidNumber
where
  finish (significand : Nat) (rest : List Char) : Read Json :=
    match rest with
    | '.' :: rest => readFraction negative significand 0 rest
    | 'e' :: rest | 'E' :: rest => readExponent negative significand 0 rest
    | _ =>
      if !negative then .ok (.int significand, rest)
      else if significand = 0 ∨ Nat.pow 2 63 < significand then
        (scaleDecimal true significand 0).map (.float ·, rest)
      else .ok (.int (-significand), rest)

/-- What may come before the next item of a list: nothing before the first one, a comma
before the others. Gives the characters at the item, or those after the bracket. -/
def nextItem (first : Bool) (cs : List Char) : Except Fault (Bool × List Char) :=
  match skipBlanks cs with
  | [] => .error .endInList
  | ']' :: rest => .ok (false, rest)
  | c :: rest =>
    if first then .ok (true, c :: rest)
    else if c = ',' then
      match skipBlanks rest with
      | [] => .error .endInValue
      | ']' :: _ => .error .trailingComma
      | rest => .ok (true, rest)
    else .error .expectedListCommaOrEnd

/-- The same for the members of an object; the characters given begin after the quote
that opens the next name. -/
def nextMember (first : Bool) (cs : List Char) : Except Fault (Bool × List Char) :=
  match skipBlanks cs with
  | [] => .error .endInObject
  | '\x7d' :: rest => .ok (false, rest)
  | c :: rest =>
    if first then
      if c = '"' then .ok (true, rest) else .error .keyMustBeString
    else if c = ',' then
      match skipBlanks rest with
      | [] => .error .endInValue
      | '"' :: rest => .ok (true, rest)
      | '\x7d' :: _ => .error .trailingComma
      | _ => .error .keyMustBeString
    else .error .expectedObjectCommaOrEnd

def readColon (cs : List Char) : Except Fault (List Char) :=
  match skipBlanks cs with
  | [] => .error .endInObject
  | ':' :: rest => .ok rest
  | _ => .error .expectedColon

mutual

/-- A value. The first argument bounds the work, the second is the nesting still
allowed. -/
def readValueWith : Nat → Nat → List Char → Read Json
  | 0, _, _ => .error .endInValue
  | fuel + 1, depth, cs =>
    match skipBlanks cs with
    | [] => .error .endInValue
    | c :: rest =>
      if c = 'n' then (readWord ['u', 'l', 'l'] rest).map (.null, ·)
      else if c = 't' then (readWord ['r', 'u', 'e'] rest).map (.bool true, ·)
      else if c = 'f' then (readWord ['a', 'l', 's', 'e'] rest).map (.bool false, ·)
      else if c = '-' then readNumber true rest
      else if c.isDigit then readNumber false (c :: rest)
      else if c = '"' then (readString rest).map fun (s, rest) => (.string s, rest)
      else if c = '[' then
        if depth ≤ 1 then .error .tooDeep else readItems fuel (depth - 1) [] rest
      else if c = '\x7b' then
        if depth ≤ 1 then .error .tooDeep else readMembers fuel (depth - 1) [] rest
      else .error .expectedValue

/-- The items of a list after those already read. -/
def readItems : Nat → Nat → List Json → List Char → Read Json
  | 0, _, _, _ => .error .endInList
  | fuel + 1, depth, items, cs =>
    match nextItem items.isEmpty cs with
    | .error e => .error e
    | .ok (false, rest) => .ok (.array items.reverse, rest)
    | .ok (true, rest) =>
      match readValueWith fuel depth rest with
      | .error e => .error e
      | .ok (item, rest) => readItems fuel depth (item :: items) rest

/-- The members of an object after those already read. -/
def readMembers : Nat → Nat → List (String × Json) → List Char → Read Json
  | 0, _, _, _ => .error .endInObject
  | fuel + 1, depth, members, cs =>
    match nextMember members.isEmpty cs with
    | .error e => .error e
    | .ok (false, rest) => .ok (.object (Fields.ofList members.reverse), rest)
    | .ok (true, rest) =>
      match readString rest with
      | .error e => .error e
      | .ok (name, rest) =>
        match readColon rest with
        | .error e => .error e
        | .ok rest =>
          match readValueWith fuel depth rest with
          | .error e => .error e
          | .ok (value, rest) => readMembers fuel depth ((name, value) :: members) rest

end

/-- The nesting a text may have. -/
def depthLimit : Nat := 128

/-- A value at the front of a text. -/
def readValue (depth : Nat) (cs : List Char) : Read Json :=
  readValueWith (2 * cs.length + 2) depth cs

/-- Nothing but blanks may be left. -/
def readEnd (cs : List Char) : Except Fault Unit :=
  if (skipBlanks cs).isEmpty then .ok () else .error .trailingCharacters

/-- The value that a text holds. -/
def read (text : String) : Except Fault Json := do
  let (value, rest) ← readValue depthLimit text.toList
  readEnd rest
  return value

end ScriptHost.Json
