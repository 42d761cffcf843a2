import Mathlib
import ScriptHost.Wire.Varint

/-! Numbers on the wire have one byte, or a marker and two, four or eight bytes. A reader takes
any of these forms; what is written is the shortest of them. Readers are judged by `Reads`: the
bytes of a value are taken and whatever follows is left alone. -/

namespace ScriptHost.Wire

variable {α β : Type}

/-- The reader takes exactly these bytes, for this value, whatever follows them. -/
def Reads (reader : Reader α) (bytes : List UInt8) (a : α) : Prop :=
  ∀ rest, reader (bytes ++ rest) = .ok (a, rest)

theorem Reads.pure (a : α) : Reads (pure a) [] a := fun _ => rfl

theorem Reads.bind {reader : Reader α} {next : α → Reader β} {first second : List UInt8} {a : α}
    {b : β} (head : Reads reader first a) (tail : Reads (next a) second b) :
    Reads (reader >>= next) (first ++ second) b := by
  intro rest
  show StateT.bind reader next (first ++ second ++ rest) = _
  simp only [StateT.bind, List.append_assoc, head (second ++ rest)]
  exact tail rest

/-- The last step of a reader does not take bytes. -/
theorem Reads.last {reader : Reader α} {next : α → Reader β} {bytes : List UInt8} {a : α} {b : β}
    (head : Reads reader bytes a) (tail : Reads (next a) [] b) :
    Reads (reader >>= next) bytes b := by
  have both : Reads (reader >>= next) (bytes ++ []) b := head.bind tail
  rwa [List.append_nil] at both

theorem Reads.map {reader : Reader α} {bytes : List UInt8} {a : α} (head : Reads reader bytes a)
    (f : α → β) : Reads (reader >>= fun a => Pure.pure (f a)) bytes (f a) :=
  head.last (.pure (f a))

theorem reads_byte (b : UInt8) : Reads readByte [b] b := fun _ => rfl

/-- The number that bytes stand for, the lowest first. -/
def ofLittleEndian : List UInt8 → Nat
  | [] => 0
  | b :: rest => b.toNat + 256 * ofLittleEndian rest

theorem length_littleEndian (width n : Nat) : (littleEndian width n).length = width := by
  induction width generalizing n with
  | zero => rfl
  | succ width ih => simp [littleEndian, ih]

theorem ofLittleEndian_littleEndian {width n : Nat} (small : n < 256 ^ width) :
    ofLittleEndian (littleEndian width n) = n := by
  induction width generalizing n with
  | zero =>
    have zero : n = 0 := by simpa using small
    rw [zero]
    rfl
  | succ width ih =>
    have inner : n / 256 < 256 ^ width := by
      rw [Nat.pow_succ] at small
      omega
    simp only [littleEndian, ofLittleEndian, ih inner, UInt8.toNat_ofNat']
    omega

theorem littleEndian_ofLittleEndian (bytes : List UInt8) :
    littleEndian bytes.length (ofLittleEndian bytes) = bytes := by
  induction bytes with
  | nil => rfl
  | cons b rest ih =>
    have low : b.toNat < 256 := b.toNat_lt
    have first : UInt8.ofNat (b.toNat + 256 * ofLittleEndian rest) = b := by
      rw [← UInt8.toNat_inj, UInt8.toNat_ofNat']
      omega
    have others : (b.toNat + 256 * ofLittleEndian rest) / 256 = ofLittleEndian rest := by omega
    simp only [List.length_cons, ofLittleEndian, littleEndian, first, others, ih]

theorem ofLittleEndian_lt (bytes : List UInt8) : ofLittleEndian bytes < 256 ^ bytes.length := by
  induction bytes with
  | nil => exact Nat.one_pos
  | cons b rest ih =>
    have low : b.toNat < 256 := b.toNat_lt
    simp only [ofLittleEndian, List.length_cons, Nat.pow_succ]
    omega

theorem reads_littleEndian (bytes : List UInt8) :
    Reads (readLittleEndian bytes.length) bytes (ofLittleEndian bytes) := by
  induction bytes with
  | nil => exact .pure 0
  | cons b rest ih => exact (reads_byte b).bind (ih.map fun high => b.toNat + 256 * high)

/-- The forms of a number. -/
inductive Varint : Nat → List UInt8 → Prop where
  | one {b : UInt8} : b < 251 → Varint b.toNat [b]
  | two {bytes : List UInt8} : bytes.length = 2 → Varint (ofLittleEndian bytes) (251 :: bytes)
  | four {bytes : List UInt8} : bytes.length = 4 → Varint (ofLittleEndian bytes) (252 :: bytes)
  | eight {bytes : List UInt8} : bytes.length = 8 → Varint (ofLittleEndian bytes) (253 :: bytes)

/-- The form of a number than which none is shorter. -/
def Shortest (n : Nat) (bytes : List UInt8) : Prop :=
  Varint n bytes ∧ ∀ other, Varint n other → bytes.length ≤ other.length

theorem Varint.length_pos {n : Nat} {bytes : List UInt8} (form : Varint n bytes) :
    0 < bytes.length := by
  cases form <;> exact Nat.succ_pos _

theorem Varint.reads {n : Nat} {bytes : List UInt8} (form : Varint n bytes) :
    Reads readNat bytes n := by
  intro rest
  cases form with
  | one small =>
    simp [readNat, readByte, bind, StateT.bind, Except.bind, small, pure, StateT.pure, Except.pure]
  | two size =>
    have read := reads_littleEndian ‹_› rest
    rw [size] at read
    exact read
  | four size =>
    have read := reads_littleEndian ‹_› rest
    rw [size] at read
    exact read
  | eight size =>
    have read := reads_littleEndian ‹_› rest
    rw [size] at read
    exact read

/-- The four forms of a number, as they are written. -/
theorem varint_iff (n : Nat) (bytes : List UInt8) :
    Varint n bytes ↔ n < 251 ∧ bytes = [UInt8.ofNat n] ∨
      n < 2 ^ 16 ∧ bytes = 251 :: littleEndian 2 n ∨
      n < 2 ^ 32 ∧ bytes = 252 :: littleEndian 4 n ∨
      n < 2 ^ 64 ∧ bytes = 253 :: littleEndian 8 n := by
  constructor
  · intro form
    cases form with
    | one small => exact .inl ⟨UInt8.lt_iff_toNat_lt.mp small, by rw [UInt8.ofNat_toNat]⟩
    | @two bytes size =>
      refine .inr (.inl ⟨?_, ?_⟩)
      · have below := ofLittleEndian_lt bytes
        rwa [size] at below
      · rw [← size, littleEndian_ofLittleEndian]
    | @four bytes size =>
      refine .inr (.inr (.inl ⟨?_, ?_⟩))
      · have below := ofLittleEndian_lt bytes
        rwa [size] at below
      · rw [← size, littleEndian_ofLittleEndian]
    | @eight bytes size =>
      refine .inr (.inr (.inr ⟨?_, ?_⟩))
      · have below := ofLittleEndian_lt bytes
        rwa [size] at below
      · rw [← size, littleEndian_ofLittleEndian]
  · rintro (⟨small, rfl⟩ | ⟨small, rfl⟩ | ⟨small, rfl⟩ | ⟨small, rfl⟩)
    · have byte : (UInt8.ofNat n).toNat = n := by
        rw [UInt8.toNat_ofNat']
        omega
      have form : Varint (UInt8.ofNat n).toNat [UInt8.ofNat n] :=
        .one (UInt8.lt_iff_toNat_lt.mpr (by rw [byte]; exact small))
      rwa [byte] at form
    · have form := Varint.two (length_littleEndian 2 n)
      rwa [ofLittleEndian_littleEndian small] at form
    · have form := Varint.four (length_littleEndian 4 n)
      rwa [ofLittleEndian_littleEndian small] at form
    · have form := Varint.eight (length_littleEndian 8 n)
      rwa [ofLittleEndian_littleEndian small] at form

theorem varint_writeNat {n : Nat} (small : n < 2 ^ 64) : Varint n (writeNat n) := by
  rw [varint_iff, writeNat]
  split
  · exact .inl ⟨‹_›, rfl⟩
  split
  · exact .inr (.inl ⟨‹_›, rfl⟩)
  split
  · exact .inr (.inr (.inl ⟨‹_›, rfl⟩))
  · exact .inr (.inr (.inr ⟨small, rfl⟩))

theorem length_writeNat (n : Nat) : (writeNat n).length =
    if n < 251 then 1 else if n < UInt16.size then 3 else if n < UInt32.size then 5 else 9 := by
  unfold writeNat
  repeat' split
  all_goals rfl

theorem Varint.length_writeNat_le {n : Nat} {bytes : List UInt8} (form : Varint n bytes) :
    (writeNat n).length ≤ bytes.length := by
  rw [length_writeNat]
  obtain ⟨small, rfl⟩ | ⟨small, rfl⟩ | ⟨small, rfl⟩ | ⟨small, rfl⟩ := (varint_iff n bytes).mp form
  all_goals
    simp only [List.length_cons, List.length_nil, length_littleEndian, UInt16.size, UInt32.size]
    repeat' split
    all_goals omega

/-- The forms of a number differ in their length. -/
theorem Varint.eq_of_length {n : Nat} {first second : List UInt8} (one : Varint n first)
    (other : Varint n second) (same : first.length = second.length) : first = second := by
  rw [varint_iff] at one other
  obtain ⟨-, rfl⟩ | ⟨-, rfl⟩ | ⟨-, rfl⟩ | ⟨-, rfl⟩ := one <;>
    obtain ⟨-, rfl⟩ | ⟨-, rfl⟩ | ⟨-, rfl⟩ | ⟨-, rfl⟩ := other <;>
    first
    | rfl
    | simp [length_littleEndian] at same

/-- What is written is the one form of the number than which none is shorter. -/
theorem shortest_iff (n : Nat) (bytes : List UInt8) :
    Shortest n bytes ↔ n < 2 ^ 64 ∧ bytes = writeNat n := by
  constructor
  · rintro ⟨form, least⟩
    have small : n < 2 ^ 64 := by
      obtain ⟨small, -⟩ | ⟨small, -⟩ | ⟨small, -⟩ | ⟨small, -⟩ := (varint_iff n bytes).mp form <;>
        omega
    have written := varint_writeNat small
    have same := Nat.le_antisymm (least _ written) form.length_writeNat_le
    exact ⟨small, form.eq_of_length written same⟩
  · rintro ⟨small, rfl⟩
    exact ⟨varint_writeNat small, fun other form => form.length_writeNat_le⟩

end ScriptHost.Wire
