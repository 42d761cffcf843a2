import ScriptHost.Script.Builtin.Pattern

/-! The built-in functions that belong to no object: code from text, the escapes of
addresses, and microtasks; and those that print. -/

namespace ScriptHost.Script.Comp

/-! ### Escapes -/

def uriError {α : Type} (message : String) : Comp α := raise .uriError message

def isPlainLetter (n : Nat) : Bool :=
  ('a'.toNat ≤ n && n ≤ 'z'.toNat) || ('A'.toNat ≤ n && n ≤ 'Z'.toNat)
    || ('0'.toNat ≤ n && n ≤ '9'.toNat)

def isOneOf (marks : String) (n : Nat) : Bool := marks.toList.any (·.toNat == n)

/-- The marks that separate the parts of an address. -/
def separators : String := ";/?:@&=+$,#"

def hexPair (n : Nat) : String :=
  String.ofList [(digitChar (n / 16 % 16)).toUpper, (digitChar (n % 16)).toUpper]

/-- Escapes all but plain letters, some marks and, in a whole address, its separators. -/
def escapeAddress (whole : Bool) : List Nat → Comp String
  | [] => return ""
  | n :: rest => do
    if isPlainLetter n || isOneOf "-_.!~*'()" n || (whole && isOneOf separators n) then
      return String.ofList [Char.ofNat n] ++ (← escapeAddress whole rest)
    if 0xDC00 ≤ n && n < 0xE000 then uriError "invalid character"
    if 0xD800 ≤ n && n < 0xDC00 then uriError "expecting surrogate pair"
    let bytes := (String.ofList [Char.ofNat n]).toUTF8.toList
    return String.join (bytes.map fun b => "%" ++ hexPair b.toNat) ++ (← escapeAddress whole rest)

def hexValue? (u : UInt16) : Option Nat :=
  let n := u.toNat
  if '0'.toNat ≤ n && n ≤ '9'.toNat then some (n - '0'.toNat)
  else if 'a'.toNat ≤ n && n ≤ 'f'.toNat then some (n - 'a'.toNat + 10)
  else if 'A'.toNat ≤ n && n ≤ 'F'.toNat then some (n - 'A'.toNat + 10)
  else none

/-- The byte of an escape and what follows it. -/
def escapedByte (units : List UInt16) : Comp (Nat × List UInt16) :=
  match units with
  | 0x25 :: rest =>
    match rest with
    | a :: b :: rest =>
      match hexValue? a, hexValue? b with
      | some a, some b => return (a * 16 + b, rest)
      | _, _ => uriError "expecting hex digit"
    | _ => uriError "expecting hex digit"
  | _ => uriError "expecting %"

/-- The bytes that continue a character, and its number; zero if one of them does not
belong. -/
def continuation : Nat → Nat → List UInt16 → Comp (Nat × List UInt16)
  | 0, n, rest => return (n, rest)
  | count + 1, n, units => do
    let (b, rest) ← escapedByte units
    if b / 64 == 2 then continuation count (n * 64 + b % 64) rest else return (0, rest)

/-- Takes escapes back; in a whole address those of separators stay. The text that is left
gets shorter with each character, so as many rounds as it has units are enough. -/
def unescapeAddress (whole : Bool) : Nat → List UInt16 → List UInt16 → Comp (List UInt16)
  | 0, _, found => return found.reverse
  | _, [], found => return found.reverse
  | limit + 1, u :: rest, found => do
    if u != 0x25 then unescapeAddress whole limit rest (u :: found)
    else
      let (b, after) ← escapedByte (u :: rest)
      if b < 0x80 then
        if whole && isOneOf separators b then unescapeAddress whole limit rest (u :: found)
        else unescapeAddress whole limit after (UInt16.ofNat b :: found)
      else
        let (count, least, start) :=
          if 0xC0 ≤ b && b ≤ 0xDF then (1, 0x80, b % 32)
          else if 0xE0 ≤ b && b ≤ 0xEF then (2, 0x800, b % 16)
          else if 0xF0 ≤ b && b ≤ 0xF7 then (3, 0x10000, b % 8)
          else (0, 1, 0)
        let (n, after) ← continuation count start after
        if n < least || 0x10FFFF < n || (0xD800 ≤ n && n < 0xE000) then uriError "malformed UTF-8"
        unescapeAddress whole limit after ((Utf16.ofCodePoint n).toUnits.reverse ++ found)

/-- The older escape, which works on units. -/
def escapeUnits (units : List UInt16) : String :=
  String.join (units.map fun u =>
    let n := u.toNat
    if isPlainLetter n || isOneOf "@*_+-./" n then String.ofList [Char.ofNat n]
    else if n < 256 then "%" ++ hexPair n
    else "%u" ++ hexPair (n / 256) ++ hexPair n)

def unescapeUnits : List UInt16 → List UInt16
  | 0x25 :: 0x75 :: a :: b :: c :: d :: rest =>
    match hexValue? a, hexValue? b, hexValue? c, hexValue? d with
    | some a, some b, some c, some d =>
      UInt16.ofNat (((a * 16 + b) * 16 + c) * 16 + d) :: unescapeUnits rest
    | _, _, _, _ => 0x25 :: 0x75 :: unescapeUnits (a :: b :: c :: d :: rest)
  | 0x25 :: a :: b :: rest =>
    match hexValue? a, hexValue? b with
    | some a, some b => UInt16.ofNat (a * 16 + b) :: unescapeUnits rest
    | _, _ => 0x25 :: unescapeUnits (a :: b :: rest)
  | u :: rest => u :: unescapeUnits rest
  | [] => []

def globalFunction (f : GlobalFunction) (i : Invocation) : Comp Value := do
  let decode (whole : Bool) : Comp Value := do
    let units := (← toText (i.arg 0)).toUnits
    return .string (.ofUnits (← unescapeAddress whole units.length units []))
  let encode (whole : Bool) : Comp Value := do
    return .text (← escapeAddress whole (← toText (i.arg 0)).codePoints)
  match f with
  | .eval => evalText (i.arg 0)
  | .decodeURI => decode true
  | .decodeURIComponent => decode false
  | .encodeURI => encode true
  | .encodeURIComponent => encode false
  | .escape => return .text (escapeUnits (← toText (i.arg 0)).toUnits)
  | .unescape => return .string (.ofUnits (unescapeUnits (← toText (i.arg 0)).toUnits))
  | .queueMicrotask =>
    let work := i.arg 0
    unless ← read (·.callable work) do notFunction
    enqueue (.call work)
    return .undefined

/-! ### Printing -/

/-- The text of a value as the host can take it. -/
def hostText (v : Value) : Comp String := do
  match (← toText v).toString? with
  | .ok s => return s
  | .error index =>
    typeError ("Conversion from string failed: invalid utf-8 sequence of 1 bytes from index "
      ++ toString index)

/-- Prints the texts of the arguments with blanks between them. -/
def printLine (level : Log.Level) (args : List Value) : Comp Value := do
  let texts ← mapList args hostText
  update fun h => { h with printed := (level, String.intercalate " " texts) :: h.printed }
  return .undefined

end ScriptHost.Script.Comp
