/-! Integers on the wire. Numbers below 251 take one byte; larger ones a marker byte for
their width and then two, four or eight bytes, the lowest first. Signed numbers are
folded onto the natural ones so that small magnitudes stay short. -/

namespace ScriptHost.Wire

/-- What can be wrong with a payload. -/
inductive Fault where
  /-- The bytes end where one more is needed. -/
  | endOfInput
  /-- A string is announced longer than what is left. -/
  | shortText
  /-- No case of a type with `count` cases has this index. -/
  | unknownCase (index count : Nat)
  | caseTooLarge (index : Nat)
  | invalidBool (byte : Nat)
  | invalidOption (byte : Nat)
  | invalidText (reason : String)
  /-- The marker of an integer wider than 64 bits. -/
  | wideInteger
  /-- The marker kept for extensions. -/
  | extensionMarker
  /-- Bytes are left after the value. -/
  | leftover
deriving DecidableEq, Repr

def Fault.message : Fault → String
  | .endOfInput => "io error: unexpected end of file"
  | .shortText => "io error: "
  | .unknownCase index count =>
    "invalid value: integer `" ++ toString index ++ "`, expected variant index 0 <= i < " ++
      toString count
  | .caseTooLarge index =>
    "Invalid u32 " ++ toString index ++ ": you may have a version disagreement?"
  | .invalidBool byte =>
    "invalid u8 while decoding bool, expected 0 or 1, found " ++ toString byte
  | .invalidOption byte => "tag for enum is not valid, found " ++ toString byte
  | .invalidText reason => "string is not valid utf8: " ++ reason
  | .wideInteger =>
    "Invalid value (u128 range): you may have a version or configuration disagreement?"
  | .extensionMarker =>
    "\nByte 255 is treated as an extension point; it should not be encoding anything.\n" ++
    "Do you have a mismatched bincode version or configuration?\n"
  | .leftover => "Slice had bytes remaining after deserialization"

/-- A reader of a value: it takes the bytes that are left and leaves those after the
value. -/
abbrev Reader := StateT (List UInt8) (Except Fault)

/-- The next byte. -/
def readByte : Reader UInt8
  | [] => .error .endOfInput
  | b :: rest => .ok (b, rest)

/-- A number below `256 ^ width`, the lowest byte first. -/
def littleEndian : Nat → Nat → List UInt8
  | 0, _ => []
  | width + 1, n => UInt8.ofNat n :: littleEndian width (n / 256)

/-- The number that `width` bytes stand for. -/
def readLittleEndian : Nat → Reader Nat
  | 0 => pure 0
  | width + 1 => do
    let low ← readByte
    let high ← readLittleEndian width
    return low.toNat + 256 * high

/-- The shortest form of a number below `2 ^ 64`. -/
def writeNat (n : Nat) : List UInt8 :=
  if n < 251 then [UInt8.ofNat n]
  else if n < UInt16.size then 251 :: littleEndian 2 n
  else if n < UInt32.size then 252 :: littleEndian 4 n
  else 253 :: littleEndian 8 n

/-- A number in any of its forms; longer forms than needed are read too. -/
def readNat : Reader Nat := do
  let b ← readByte
  if b < 251 then return b.toNat
  else if b = 251 then readLittleEndian 2
  else if b = 252 then readLittleEndian 4
  else if b = 253 then readLittleEndian 8
  else if b = 254 then throw .wideInteger
  else throw .extensionMarker

/-- The natural number for a signed one: 0, -1, 1, -2, 2 and so on in turn. -/
def fold (i : Int) : Nat := if 0 ≤ i then 2 * i.natAbs else 2 * i.natAbs - 1

def unfold (n : Nat) : Int := if n % 2 = 0 then (n / 2 : Nat) else -((n / 2 + 1 : Nat) : Int)

end ScriptHost.Wire
