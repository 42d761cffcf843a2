import ScriptHost.Wire.Varint
import ScriptHost.Text.Utf8
import ScriptHost.Number.Double

/-! Types with a binary form. A form is self-delimiting: its reader knows from the
bytes alone where the value ends. -/

namespace ScriptHost

/-- A type with a binary form. -/
class Wire (α : Type) where
  write : α → List UInt8
  read : Wire.Reader α

namespace Wire

instance : Wire UInt64 where
  write n := writeNat n.toNat
  read := return UInt64.ofNat (← readNat)

instance : Wire Int64 where
  write i := writeNat (fold i.toInt)
  read := return Int64.ofInt (unfold (← readNat))

/-- A double is its eight bytes. -/
instance : Wire Double where
  write d := littleEndian 8 d.bits.toNat
  read := return ⟨UInt64.ofNat (← readLittleEndian 8)⟩

instance : Wire Bool where
  write b := [if b then 1 else 0]
  read := do
    let b ← readByte
    if b = 0 then return false
    else if b = 1 then return true
    else throw (.invalidBool b.toNat)

/-- The next `count` bytes, all of which have to be there. -/
def readBytes (count : Nat) : Reader (List UInt8) := fun bytes =>
  let (taken, rest) := bytes.splitAt count
  if taken.length < count then .error .shortText else .ok (taken, rest)

/-- A text is the number of its bytes and its bytes. -/
instance : Wire String where
  write s :=
    let bytes := Utf8.encode s
    writeNat bytes.length ++ bytes
  read := do
    let bytes ← readBytes (← readNat)
    match Utf8.decode bytes with
    | .ok s => return s
    | .error fault => throw (.invalidText fault.message)

variable {α β : Type} [Wire α] [Wire β]

/-- A byte says whether a value follows. -/
instance : Wire (Option α) where
  write
    | none => [0]
    | some a => 1 :: Wire.write a
  read := do
    let b ← readByte
    if b = 0 then return none
    else if b = 1 then return some (← Wire.read)
    else throw (.invalidOption b.toNat)

/-- `count` values in a row, behind those already read. -/
def readMany (read : Reader α) : Nat → List α → Reader (List α)
  | 0, items => pure items.reverse
  | count + 1, items => do readMany read count ((← read) :: items)

/-- The index of a case of a type that has `count` of them. -/
def readCase (count : Nat) : Reader Nat := do
  let index ← readNat
  if UInt32.size ≤ index then throw (.caseTooLarge index)
  else if count ≤ index then throw (.unknownCase index count)
  else return index

/-- The value that bytes hold, all of them. -/
def readAll (bytes : List UInt8) : Except Fault α :=
  match (Wire.read : Reader α) bytes with
  | .ok (a, []) => .ok a
  | .ok (_, _ :: _) => .error .leftover
  | .error fault => .error fault

end Wire

end ScriptHost
