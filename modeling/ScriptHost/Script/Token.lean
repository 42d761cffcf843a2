import ScriptHost.Script.Letter
import ScriptHost.Script.Syntax

/-! The tokens of scripts. A token is read from the front of the remaining characters;
its text is what lies between the rest before it and the rest after it. -/

namespace ScriptHost.Script

inductive Token where
  | finish
  | number (value : Double)
  | bigInt (value : Int)
  | string (value : Utf16) (octal : Bool)
  /-- A piece of a template: what it stands for unless an escape in it is malformed, its
  raw text, and whether the template ends with it. -/
  | template (cooked : Option Utf16) (raw : Utf16) (last : Bool)
  /-- A name or a keyword; a keyword written with an escape is no keyword. -/
  | word (name : Name) (escaped : Bool)
  | hidden (name : Name)
  | mark (text : String)
  | regExp (pattern flags : Utf16)
deriving DecidableEq, Repr, Inhabited

/-- A token with its surroundings. -/
structure Lexeme where
  token : Token
  /-- Does a line end between the token and the one before it? -/
  fresh : Bool
  /-- The characters from the token on. -/
  start : List Char
  /-- The characters after the token. -/
  rest : List Char
deriving Inhabited

/-- What is wrong with the characters ahead. -/
abbrev Scan := Except String

namespace Scan

/-- The characters by which one rest is longer than another. -/
def between (start rest : List Char) : String :=
  String.ofList (start.take (start.length - rest.length))

/-- Skips white space and comments. Says whether a line ended on the way. The `arrow`
form of a comment counts only at the beginning of a line. -/
inductive SkipMode where
  | blank | line | block

def skip (html : Bool) (mode : SkipMode) (fresh : Bool) : List Char → Scan (Bool × List Char)
  | [] =>
    match mode with
    | .block => .error "unexpected end of comment"
    | _ => .ok (fresh, [])
  | c :: rest =>
    match mode with
    | .line => if isLineEnd c then skip html .blank true rest else skip html .line fresh rest
    | .block =>
      match c, rest with
      | '*', '/' :: rest => skip html .blank fresh rest
      | c, rest => skip html .block (fresh || isLineEnd c) rest
    | .blank =>
      if isLineEnd c then skip html .blank true rest
      else if isSpace c then skip html .blank fresh rest
      else match c, rest with
        | '/', '/' :: rest => skip html .line fresh rest
        | '/', '*' :: rest => skip html .block fresh rest
        | '<', '!' :: '-' :: '-' :: rest =>
          if html then skip html .line fresh rest
          else .ok (fresh, '<' :: '!' :: '-' :: '-' :: rest)
        | '-', '-' :: '>' :: rest =>
          if html && fresh then skip html .line fresh rest
          else .ok (fresh, '-' :: '-' :: '>' :: rest)
        | c, rest => .ok (fresh, c :: rest)

/-- Reads exactly `count` hexadecimal digits. -/
def hexDigits? (count : Nat) (input : List Char) : Option (Nat × List Char) :=
  let digits := input.take count
  if digits.length = count ∧ digits.all (isDigitOf 16) then
    some (digitsValue 16 digits, input.drop count)
  else none

/-- What follows `\u`: four digits, or digits in braces up to the last code point. -/
def unicodeEscape? : List Char → Option (Nat × List Char)
  | '{' :: rest =>
    let digits := rest.takeWhile (isDigitOf 16)
    let value := digitsValue 16 digits
    match rest.dropWhile (isDigitOf 16) with
    | '}' :: rest => if digits.isEmpty || 0x10FFFF < value then none else some (value, rest)
    | _ => none
  | input => hexDigits? 4 input

/-- The units of one code point, a surrogate counting as itself. -/
def unitsOf (n : Nat) : List UInt16 := (Utf16.ofCodePoint n).toUnits

/-- An escape after its backslash, with whether it is a legacy octal one. `none` if it is
malformed. -/
def escape? : List Char → Option (List UInt16 × Bool × List Char)
  | 'n' :: rest => some ([10], false, rest)
  | 't' :: rest => some ([9], false, rest)
  | 'r' :: rest => some ([13], false, rest)
  | 'b' :: rest => some ([8], false, rest)
  | 'v' :: rest => some ([11], false, rest)
  | 'f' :: rest => some ([12], false, rest)
  | '\r' :: '\n' :: rest => some ([], false, rest)
  | 'x' :: rest => (hexDigits? 2 rest).map fun r => (unitsOf r.1, false, r.2)
  | 'u' :: rest => (unicodeEscape? rest).map fun r => (unitsOf r.1, false, r.2)
  | c :: rest =>
    if isLineEnd c then some ([], false, rest)
    else if c = '0' ∧ !(rest.head?.any Char.isDigit) then some ([0], false, rest)
    else if isDigitOf 8 c then
      let most := if c ≤ '3' then 2 else 1
      let more := (rest.take most).takeWhile (isDigitOf 8)
      some (unitsOf (digitsValue 8 (c :: more)), true, rest.drop more.length)
    else if c = '8' ∨ c = '9' then some (unitsOf c.toNat, true, rest)
    else some (unitsOf c.toNat, false, rest)
  | [] => none

/-- The rest of a string literal. Every step takes a character, so as many steps as there
are characters suffice. -/
def stringBody (quote : Char) :
    Nat → List UInt16 → Bool → List Char → Scan (Utf16 × Bool × List Char)
  | 0, _, _, _ => .error "unexpected end of string"
  | _ + 1, _, _, [] => .error "unexpected end of string"
  | steps + 1, units, octal, c :: rest =>
    if c = quote then .ok (Utf16.ofUnits units.reverse, octal, rest)
    else if c = '\n' ∨ c = '\r' then .error "unexpected end of string"
    else if c = '\\' then
      match escape? rest with
      | some (more, isOctal, rest) =>
        stringBody quote steps (more.reverse ++ units) (octal || isOctal) rest
      | none =>
        if rest.isEmpty then .error "unexpected end of string"
        else .error "malformed escape sequence in string literal"
    else stringBody quote steps ((unitsOf c.toNat).reverse ++ units) octal rest

/-- A piece of a template up to its end or the next substitution. The cooked text is lost
at the first malformed or octal escape. -/
def templateBody :
    Nat → Option (List UInt16) → List UInt16 → List Char → Scan (Token × List Char)
  | 0, _, _, _ => .error "unexpected end of string"
  | _ + 1, _, _, [] => .error "unexpected end of string"
  | steps + 1, cooked, raw, c :: rest =>
    let finish (last : Bool) : Token :=
      .template (cooked.map fun units => Utf16.ofUnits units.reverse)
        (Utf16.ofUnits raw.reverse) last
    let plain (units : List UInt16) (rest : List Char) :=
      templateBody steps (cooked.map (units.reverse ++ ·)) (units.reverse ++ raw) rest
    match c, rest with
    | '`', rest => .ok (finish true, rest)
    | '$', '{' :: rest => .ok (finish false, rest)
    | '\r', '\n' :: rest => plain [10] rest
    | '\r', rest => plain [10] rest
    | '\\', rest =>
      match escape? rest with
      | some (units, octal, after) =>
        let written := (between rest after).toList.filter (· != '\r')
        let raw := (written.flatMap fun c => unitsOf c.toNat).reverse ++ (92 :: raw)
        templateBody steps (if octal then none else cooked.map (units.reverse ++ ·)) raw after
      | none =>
        match rest with
        | next :: rest => templateBody steps none ((unitsOf next.toNat).reverse ++ (92 :: raw)) rest
        | [] => .error "unexpected end of string"
    | c, rest => plain (unitsOf c.toNat) rest

/-- A regular expression after its first slash: its pattern, ended by a slash outside of
brackets, then its flags. -/
def regExpBody (inClass : Bool) (pattern : List Char) : List Char → Scan (Token × List Char)
  | [] => .error "unexpected end of regexp"
  | '\\' :: c :: rest =>
    if isLineEnd c then .error "unexpected line terminator in regexp"
    else regExpBody inClass (c :: '\\' :: pattern) rest
  | c :: rest =>
    if isLineEnd c then .error "unexpected line terminator in regexp"
    else if c = '/' ∧ !inClass then
      let flags := rest.takeWhile isNamePart
      .ok (.regExp (String.ofList pattern.reverse) (String.ofList flags), rest.drop flags.length)
    else
      regExpBody (if c = '[' then true else if c = ']' then false else inClass) (c :: pattern) rest

/-- Digits of a base in which single underscores may stand between two digits. -/
def digits (base : Nat) : List Char → List Char × List Char
  | [] => ([], [])
  | '_' :: c :: rest =>
    if isDigitOf base c then
      let (more, rest) := digits base (c :: rest)
      (more, rest)
    else ([], '_' :: c :: rest)
  | c :: rest =>
    if isDigitOf base c then
      let (more, rest) := digits base rest
      (c :: more, rest)
    else ([], c :: rest)

/-- Is the number before `rest` not run together with a name? -/
def endsNumber (rest : List Char) : Bool := !(rest.head?.any isNamePart) && rest.head? != some '\\'

/-- A number with a letter for its base. -/
def basedNumber (base : Nat) (input : List Char) : Scan (Token × List Char) :=
  let (found, rest) := digits base input
  let value := digitsValue base found
  match rest with
  | 'n' :: rest =>
    if found.isEmpty || !endsNumber rest then .error "invalid number literal"
    else .ok (.bigInt value, rest)
  | rest =>
    if found.isEmpty || !endsNumber rest then .error "invalid number literal"
    else .ok (.number (Double.ofNat value), rest)

/-- The exponent of a number, if what is ahead is one. -/
def exponent? : List Char → Option (Int × List Char)
  | e :: rest =>
    if e = 'e' ∨ e = 'E' then
      let (negative, rest) := match rest with
        | '-' :: rest => (true, rest)
        | '+' :: rest => (false, rest)
        | rest => (false, rest)
      let (found, rest) := digits 10 rest
      if found.isEmpty then none
      else
        let value : Int := digitsValue 10 found
        some (if negative then -value else value, rest)
    else none
  | [] => none

/-- A decimal number: digits, a fraction, an exponent; or digits with the mark of a
big integer. -/
def decimalNumber (input : List Char) : Scan (Token × List Char) :=
  let (whole, rest) := digits 10 input
  match rest with
  | 'n' :: rest =>
    if whole.isEmpty || !endsNumber rest then .error "invalid number literal"
    else .ok (.bigInt (digitsValue 10 whole), rest)
  | rest =>
    let (fraction, rest) := match rest with
      | '.' :: more => digits 10 more
      | rest => ([], rest)
    let (exponent, rest) := (exponent? rest).getD (0, rest)
    if endsNumber rest then
      .ok (.number (Double.ofDecimal false (digitsValue 10 (whole ++ fraction))
        (exponent - fraction.length)), rest)
    else .error "invalid number literal"

/-- A number that begins with a digit. A leading zero before digits makes it octal in
sloppy code unless one of them is 8 or 9. -/
def number (strict : Bool) : List Char → Scan (Token × List Char)
  | '0' :: c :: rest =>
    if c = 'x' ∨ c = 'X' then basedNumber 16 rest
    else if c = 'o' ∨ c = 'O' then basedNumber 8 rest
    else if c = 'b' ∨ c = 'B' then basedNumber 2 rest
    else if c.isDigit then
      if strict then .error "Octal literals are not allowed in strict mode"
      else
        let found := (c :: rest).takeWhile Char.isDigit
        if found.all (isDigitOf 8) then
          let rest := (c :: rest).drop found.length
          if endsNumber rest then .ok (.number (Double.ofNat (digitsValue 8 found)), rest)
          else .error "invalid number literal"
        else decimalNumber (c :: rest)
    else decimalNumber ('0' :: c :: rest)
  | input => decimalNumber input

/-- The characters of a name, escapes included; at most `steps` of them. `none` at a
malformed escape. -/
def nameChars (first : Bool) : Nat → List Char → Bool → Option (List Char × Bool × List Char)
  | 0, input, escaped => some ([], escaped, input)
  | steps + 1, input, escaped =>
    let allowed := if first then isNameStart else isNamePart
    match input with
    | '\\' :: 'u' :: rest => do
      let (value, rest) ← unicodeEscape? rest
      let c := Char.ofNat value
      if allowed c then
        let (more, escaped, rest) ← nameChars false steps rest true
        return (c :: more, escaped, rest)
      else none
    | '\\' :: _ => none
    | c :: rest =>
      if allowed c then do
        let (more, escaped, rest) ← nameChars false steps rest escaped
        return (c :: more, escaped, rest)
      else some ([], escaped, c :: rest)
    | [] => some ([], escaped, [])

/-- The marks, longest first. -/
def marks : List String :=
  [">>>=", "...", "===", "!==", "**=", "<<=", ">>=", ">>>", "&&=", "||=", "??=",
   "=>", "==", "!=", "<=", ">=", "&&", "||", "??", "++", "--", "+=", "-=", "*=", "/=", "%=",
   "&=", "|=", "^=", "<<", ">>", "**"]

/-- The mark at the front of the input. The question mark and point belong together
unless a digit follows. -/
def markAt : List Char → String × List Char
  | [] => ("", [])
  | '?' :: '.' :: rest =>
    if rest.head?.any Char.isDigit then ("?", '.' :: rest) else ("?.", rest)
  | c :: rest =>
    match marks.find? fun m => m.toList.isPrefixOf (c :: rest) with
    | some m => (m, (c :: rest).drop m.length)
    | none => (c.toString, rest)

/-- The token at the front of the input, which begins with no blank. -/
def tokenAt (strict : Bool) (input : List Char) : Scan (Token × List Char) :=
  let wordAt (input : List Char) : Option (Token × List Char) := do
    let (chars, escaped, rest) ← nameChars true input.length input false
    if chars.isEmpty then none else some (.word (String.ofList chars) escaped, rest)
  let mark : Scan (Token × List Char) :=
    let (text, rest) := markAt input
    .ok (.mark text, rest)
  match input with
  | [] => .ok (.finish, [])
  | c :: rest =>
    if c = '"' ∨ c = '\'' then do
      let (value, octal, rest) ← stringBody c (rest.length + 1) [] false rest
      if octal && strict then .error "octal escape sequences are not allowed in strict mode"
      else .ok (.string value octal, rest)
    else if c = '`' then templateBody (rest.length + 1) (some []) [] rest
    else if c.isDigit then number strict input
    else if c = '.' ∧ rest.head?.any Char.isDigit then decimalNumber input
    else if c = '#' then
      match nameChars true rest.length rest false with
      | some (name, _, rest) =>
        if name.isEmpty then mark else .ok (.hidden (String.ofList ('#' :: name)), rest)
      | none => mark
    else if isNameStart c ∨ c = '\\' then
      match wordAt input with
      | some found => .ok found
      | none => mark
    else mark

/-- The next token. `html` allows the comments of the web. -/
def lexeme (html strict : Bool) (input : List Char) : Scan Lexeme := do
  let (fresh, start) ← skip html .blank false input
  let (token, rest) ← tokenAt strict start
  return { token := token, fresh := fresh, start := start, rest := rest }

end Scan

end ScriptHost.Script
