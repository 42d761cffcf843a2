/-! Text in units of 16 bits, as scripts see it. Every text with sound surrogate pairs is
kept as a string, so only a text with a surrogate that has no partner is kept as its
units, and two texts are equal exactly when they are the same value. -/

namespace ScriptHost

inductive Utf16 where
  | text (s : String)
  /-- The units of a text that no string can hold. -/
  | units (u : List UInt16)
deriving DecidableEq, Repr, Inhabited

namespace Utf16

def isHighSurrogate (u : UInt16) : Bool := 0xD800 ≤ u && u < 0xDC00

def isLowSurrogate (u : UInt16) : Bool := 0xDC00 ≤ u && u < 0xE000

/-- The code point of a pair of surrogates. -/
def pairValue (high low : UInt16) : Nat :=
  0x10000 + (high.toNat - 0xD800) * 0x400 + (low.toNat - 0xDC00)

/-- The units of one character. -/
def unitsOfChar (c : Char) : List UInt16 :=
  let n := c.toNat
  if n < 0x10000 then [UInt16.ofNat n]
  else
    let rest := n - 0x10000
    [UInt16.ofNat (0xD800 + rest / 0x400), UInt16.ofNat (0xDC00 + rest % 0x400)]

/-- The characters that units spell, if every surrogate has its partner. -/
def chars? : List UInt16 → Option (List Char)
  | [] => some []
  | high :: low :: rest =>
    if isHighSurrogate high then
      if isLowSurrogate low then (chars? rest).map (Char.ofNat (pairValue high low) :: ·)
      else none
    else if isLowSurrogate high then none
    else (chars? (low :: rest)).map (Char.ofNat high.toNat :: ·)
  | [u] => if isHighSurrogate u || isLowSurrogate u then none else some [Char.ofNat u.toNat]

/-- Reads units from the end of a list that is held back to front, keeping the characters
found so far. A tail-recursive form of `chars?`. -/
def charsInto (found : List Char) : List UInt16 → Option (List Char)
  | [] => some found
  | low :: high :: rest =>
    if isLowSurrogate low then
      if isHighSurrogate high then charsInto (Char.ofNat (pairValue high low) :: found) rest
      else none
    else if isHighSurrogate low then none
    else charsInto (Char.ofNat low.toNat :: found) (high :: rest)
  | [u] =>
    if isHighSurrogate u || isLowSurrogate u then none
    else some (Char.ofNat u.toNat :: found)

/-- The text of units. -/
def ofUnits (u : List UInt16) : Utf16 :=
  match charsInto [] u.reverse with
  | some chars => text (String.ofList chars)
  | none => units u

def toUnits : Utf16 → List UInt16
  | text s => s.foldr (fun c units => unitsOfChar c ++ units) []
  | units u => u

instance : Coe String Utf16 := ⟨text⟩

def empty : Utf16 := text ""

instance : EmptyCollection Utf16 := ⟨empty⟩

def isEmpty (s : Utf16) : Bool := s == empty

/-- Are all characters ASCII? Then characters, bytes and units count the same. -/
def asciiText (s : String) : Bool := s.length == s.utf8ByteSize

/-- The number of units. -/
def length : Utf16 → Nat
  | text s =>
    if asciiText s then s.length
    else s.foldl (fun n c => n + (if c.toNat < 0x10000 then 1 else 2)) 0
  | units u => u.length

/-- About how much room a text takes. -/
def size : Utf16 → Nat
  | text s => s.utf8ByteSize
  | units u => u.length

def append : Utf16 → Utf16 → Utf16
  | text a, text b => text (a ++ b)
  | a, b => ofUnits (a.toUnits ++ b.toUnits)

instance : Append Utf16 := ⟨append⟩

/-- The units from `start` up to `stop`. -/
def extract (s : Utf16) (start stop : Nat) : Utf16 :=
  match s with
  | text t =>
    if asciiText t then text (String.Pos.Raw.extract t ⟨start⟩ ⟨min stop t.length⟩)
    else ofUnits ((s.toUnits.drop start).take (stop - start))
  | units u => ofUnits ((u.drop start).take (stop - start))

/-- The unit at an index. -/
def unitAt? (s : Utf16) (i : Nat) : Option UInt16 :=
  match s with
  | text t =>
    if asciiText t then
      if i < t.length then some (UInt16.ofNat (String.Pos.Raw.get t ⟨i⟩).toNat) else none
    else s.toUnits[i]?
  | units u => u[i]?

/-- The text of one unit. -/
def ofUnit (u : UInt16) : Utf16 := ofUnits [u]

/-- The text of one code point; a surrogate stands for itself. -/
def ofCodePoint (n : Nat) : Utf16 :=
  if 0xD800 ≤ n ∧ n < 0xE000 then ofUnits [UInt16.ofNat n]
  else text (Char.ofNat n).toString

/-- The code points of a list of units, an unpaired surrogate counting as one. -/
def codePointsOf : List UInt16 → List Nat
  | [] => []
  | [u] => [u.toNat]
  | high :: low :: rest =>
    if isHighSurrogate high && isLowSurrogate low then pairValue high low :: codePointsOf rest
    else high.toNat :: codePointsOf (low :: rest)

def codePoints : Utf16 → List Nat
  | text s => s.toList.map Char.toNat
  | units u => codePointsOf u

/-- How many bytes of UTF-8 a code point takes, a surrogate taking three. -/
def codePointBytes (n : Nat) : Nat :=
  if n < 0x80 then 1 else if n < 0x800 then 2 else if n < 0x10000 then 3 else 4

/-- Where the first unpaired surrogate begins when code points are written as UTF-8. -/
def loneIndex (index : Nat) : List Nat → Option Nat
  | [] => none
  | n :: rest =>
    if 0xD800 ≤ n ∧ n < 0xE000 then some index else loneIndex (index + codePointBytes n) rest

/-- The string of a sound text, or the byte index of the first unpaired surrogate. -/
def toString? : Utf16 → Except Nat String
  | text s => .ok s
  | units u => .error ((loneIndex 0 (codePointsOf u)).getD 0)

/-- A string that shows a text; unpaired surrogates become replacement characters. -/
def display : Utf16 → String
  | text s => s
  | units u => String.ofList ((codePointsOf u).map fun n =>
      if 0xD800 ≤ n ∧ n < 0xE000 then Char.ofNat 0xFFFD else Char.ofNat n)

/-- The order of the units, the one in which scripts compare text. -/
def lessUnits : List UInt16 → List UInt16 → Bool
  | _, [] => false
  | [], _ :: _ => true
  | a :: as, b :: bs => a < b || (a == b && lessUnits as bs)

def less (a b : Utf16) : Bool :=
  match a, b with
  | text s, text t => if asciiText s && asciiText t then s < t else lessUnits a.toUnits b.toUnits
  | _, _ => lessUnits a.toUnits b.toUnits

/-- Does a list begin with another? -/
def startsWith : List UInt16 → List UInt16 → Bool
  | _, [] => true
  | [], _ :: _ => false
  | a :: as, b :: bs => a == b && startsWith as bs

/-- The first position from `index` on where a list of units holds another. -/
def findFrom (pattern : List UInt16) (index : Nat) : List UInt16 → Option Nat
  | [] => if pattern.isEmpty then some index else none
  | u :: rest =>
    if startsWith (u :: rest) pattern then some index else findFrom pattern (index + 1) rest

/-- The first position at or after `start` where a text holds another. -/
def indexOf? (s pattern : Utf16) (start : Nat) : Option Nat :=
  let units := s.toUnits
  if units.length < start then none else findFrom pattern.toUnits start (units.drop start)

/-- The last position at or before `start` where a text holds another. -/
def lastIndexOf? (s pattern : Utf16) (start : Nat) : Option Nat :=
  let units := s.toUnits
  let wanted := pattern.toUnits
  (List.range (min start units.length + 1)).reverse.find? fun i => startsWith (units.drop i) wanted

/-- A text many times over. -/
def repeated (s : Utf16) (times : Nat) : Utf16 :=
  match s with
  | text t => text ((List.replicate times t).foldl (· ++ ·) "")
  | units u => ofUnits (List.replicate times u).flatten

def concat (parts : List Utf16) : Utf16 := parts.foldl (· ++ ·) empty

/-- The texts with a separator between each two. -/
def intercalate (separator : Utf16) : List Utf16 → Utf16
  | [] => empty
  | first :: rest => rest.foldl (fun text part => text ++ separator ++ part) first

end Utf16

end ScriptHost
