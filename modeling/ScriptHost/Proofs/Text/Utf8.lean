import Mathlib
import ScriptHost.Text.Utf8

/-! Decoding gives back the text that was encoded, and takes no other bytes for a text. The bytes
of a character are read in the order of their number; each lemma says where the second byte's
range leaves room for exactly the characters that take so many bytes. -/

namespace ScriptHost.Utf8

theorem lead?_two {start n : Nat} (low : 0xC2 ≤ n) (high : n ≤ 0xDF) :
    lead? start (.ofNat n) = some ⟨start, 1, 1, n % 32, 0x80, 0xBF⟩ := by
  have small : n < 256 := by omega
  simp only [lead?, UInt8.le_iff_toNat_le, ← UInt8.toNat_inj, UInt8.toNat_ofNat_of_lt' small]
  simp [low, high]

theorem lead?_three {start n : Nat} (low : 0xE0 ≤ n) (high : n ≤ 0xEF) :
    lead? start (.ofNat n) = some ⟨start, 1, 2, n % 16, if n = 0xE0 then 0xA0 else 0x80,
      if n = 0xED then 0x9F else 0xBF⟩ := by
  have small : n < 256 := by omega
  simp only [lead?, UInt8.le_iff_toNat_le, ← UInt8.toNat_inj, UInt8.toNat_ofNat_of_lt' small]
  by_cases first : n = 0xE0
  · simp [first]
  · by_cases surrogate : n = 0xED
    · simp [surrogate]
    · have inner : 0xE1 ≤ n := by omega
      have long : ¬ n ≤ 0xDF := by omega
      simp [first, surrogate, inner, high, long]

theorem lead?_four {start n : Nat} (low : 0xF0 ≤ n) (high : n ≤ 0xF4) :
    lead? start (.ofNat n) = some ⟨start, 1, 3, n % 8, if n = 0xF0 then 0x90 else 0x80,
      if n = 0xF4 then 0x8F else 0xBF⟩ := by
  have cases : n = 0xF0 ∨ n = 0xF1 ∨ n = 0xF2 ∨ n = 0xF3 ∨ n = 0xF4 := by omega
  rcases cases with rfl | rfl | rfl | rfl | rfl <;> rfl

theorem decodeFrom_ascii {index n : Nat} {read : String} {rest : List UInt8} (small : n < 0x80) :
    decodeFrom index none read (.ofNat n :: rest) =
      decodeFrom (index + 1) none (read.push (.ofNat n)) rest := by
  have byte : n < 256 := by omega
  simp [decodeFrom, UInt8.lt_iff_toNat_lt, UInt8.toNat_ofNat_of_lt' byte, small]

theorem decodeFrom_lead {index n : Nat} {read : String} {rest : List UInt8} {p : Pending}
    (large : 0x80 ≤ n) (byte : n < 256) (leads : lead? index (.ofNat n) = some p) :
    decodeFrom index none read (.ofNat n :: rest) = decodeFrom (index + 1) (some p) read rest := by
  have notAscii : ¬ n < 0x80 := by omega
  simp [decodeFrom, UInt8.lt_iff_toNat_lt, UInt8.toNat_ofNat_of_lt' byte, notAscii, leads]

theorem decodeFrom_more {index start taken missing value n : Nat} {low high : UInt8}
    {read : String} {rest : List UInt8} (above : low.toNat ≤ n) (below : n ≤ high.toNat) :
    decodeFrom index (some ⟨start, taken, missing + 2, value, low, high⟩) read (.ofNat n :: rest) =
      decodeFrom (index + 1) (some ⟨start, taken + 1, missing + 1, value * 64 + n % 64, 0x80, 0xBF⟩)
        read rest := by
  have byte : n < 256 := Nat.lt_of_le_of_lt below high.toNat_lt
  simp [decodeFrom, UInt8.le_iff_toNat_le, UInt8.toNat_ofNat_of_lt' byte, above, below]

theorem decodeFrom_last {index start taken value n : Nat} {low high : UInt8}
    {read : String} {rest : List UInt8} (above : low.toNat ≤ n) (below : n ≤ high.toNat) :
    decodeFrom index (some ⟨start, taken, 1, value, low, high⟩) read (.ofNat n :: rest) =
      decodeFrom (index + 1) none (read.push (.ofNat (value * 64 + n % 64))) rest := by
  have byte : n < 256 := Nat.lt_of_le_of_lt below high.toNat_lt
  simp [decodeFrom, UInt8.le_iff_toNat_le, UInt8.toNat_ofNat_of_lt' byte, above, below]

private theorem continuation (n : Nat) :
    (0x80 : UInt8).toNat ≤ n % 64 + 0x80 ∧ n % 64 + 0x80 ≤ (0xBF : UInt8).toNat := by
  constructor
  · exact Nat.le_add_left _ _
  · show n % 64 + 128 ≤ 191
    omega

theorem decodeFrom_two {index n : Nat} {read : String} {rest : List UInt8}
    (low : 0x80 ≤ n) (high : n ≤ 0x7FF) :
    decodeFrom index none read (.ofNat (n / 64 % 32 + 0xC0) :: .ofNat (n % 64 + 0x80) :: rest) =
      decodeFrom (index + 2) none (read.push (.ofNat n)) rest := by
  rw [decodeFrom_lead (by omega) (by omega) (lead?_two (by omega) (by omega)),
    decodeFrom_last (continuation n).1 (continuation n).2]
  have value : (n / 64 % 32 + 0xC0) % 32 * 64 + (n % 64 + 0x80) % 64 = n := by omega
  simp only [value, Nat.add_assoc]

/-- Of three bytes, the second is what tells overlong forms and surrogates from characters. -/
theorem decodeFrom_three {index n : Nat} {read : String} {rest : List UInt8}
    (low : 0x800 ≤ n) (high : n ≤ 0xFFFF) (scalar : n < 0xD800 ∨ 0xDFFF < n) :
    decodeFrom index none read (.ofNat (n / 4096 % 16 + 0xE0) :: .ofNat (n / 64 % 64 + 0x80) ::
        .ofNat (n % 64 + 0x80) :: rest) =
      decodeFrom (index + 3) none (read.push (.ofNat n)) rest := by
  have above : (if n / 4096 % 16 + 0xE0 = 0xE0 then (0xA0 : UInt8) else 0x80).toNat ≤
      n / 64 % 64 + 0x80 := by
    split
    · show 160 ≤ _
      omega
    · exact (continuation _).1
  have below : n / 64 % 64 + 0x80 ≤
      (if n / 4096 % 16 + 0xE0 = 0xED then (0x9F : UInt8) else 0xBF).toNat := by
    split
    · show _ ≤ 159
      omega
    · exact (continuation _).2
  rw [decodeFrom_lead (by omega) (by omega) (lead?_three (by omega) (by omega)),
    decodeFrom_more above below,
    decodeFrom_last (continuation n).1 (continuation n).2]
  have value : ((n / 4096 % 16 + 0xE0) % 16 * 64 + (n / 64 % 64 + 0x80) % 64) * 64 +
      (n % 64 + 0x80) % 64 = n := by omega
  simp only [value, Nat.add_assoc]

/-- Of four bytes, the second keeps out overlong forms and what lies beyond the last character. -/
theorem decodeFrom_four {index n : Nat} {read : String} {rest : List UInt8}
    (low : 0x10000 ≤ n) (high : n ≤ 0x10FFFF) :
    decodeFrom index none read (.ofNat (n / 262144 % 8 + 0xF0) :: .ofNat (n / 4096 % 64 + 0x80) ::
        .ofNat (n / 64 % 64 + 0x80) :: .ofNat (n % 64 + 0x80) :: rest) =
      decodeFrom (index + 4) none (read.push (.ofNat n)) rest := by
  have above : (if n / 262144 % 8 + 0xF0 = 0xF0 then (0x90 : UInt8) else 0x80).toNat ≤
      n / 4096 % 64 + 0x80 := by
    split
    · show 144 ≤ _
      omega
    · exact (continuation _).1
  have below : n / 4096 % 64 + 0x80 ≤
      (if n / 262144 % 8 + 0xF0 = 0xF4 then (0x8F : UInt8) else 0xBF).toNat := by
    split
    · show _ ≤ 143
      omega
    · exact (continuation _).2
  rw [decodeFrom_lead (by omega) (by omega) (lead?_four (by omega) (by omega)),
    decodeFrom_more above below,
    decodeFrom_more (continuation _).1 (continuation _).2,
    decodeFrom_last (continuation n).1 (continuation n).2]
  have value : (((n / 262144 % 8 + 0xF0) % 8 * 64 + (n / 4096 % 64 + 0x80) % 64) * 64 +
      (n / 64 % 64 + 0x80) % 64) * 64 + (n % 64 + 0x80) % 64 = n := by omega
  simp only [value, Nat.add_assoc]

/-- The bytes of a character by its number. -/
theorem utf8EncodeChar_eq (c : Char) : String.utf8EncodeChar c =
    if c.toNat ≤ 0x7f then [.ofNat c.toNat]
    else if c.toNat ≤ 0x7ff then [.ofNat (c.toNat / 64 % 32 + 0xC0), .ofNat (c.toNat % 64 + 0x80)]
    else if c.toNat ≤ 0xffff then
      [.ofNat (c.toNat / 4096 % 16 + 0xE0), .ofNat (c.toNat / 64 % 64 + 0x80),
        .ofNat (c.toNat % 64 + 0x80)]
    else
      [.ofNat (c.toNat / 262144 % 8 + 0xF0), .ofNat (c.toNat / 4096 % 64 + 0x80),
        .ofNat (c.toNat / 64 % 64 + 0x80), .ofNat (c.toNat % 64 + 0x80)] := rfl

/-- A character is read back from its bytes, whatever follows them. -/
theorem decodeFrom_char (index : Nat) (read : String) (c : Char) (rest : List UInt8) :
    decodeFrom index none read (String.utf8EncodeChar c ++ rest) =
      decodeFrom (index + (String.utf8EncodeChar c).length) none (read.push c) rest := by
  have scalar : c.toNat < 0xD800 ∨ 0xDFFF < c.toNat ∧ c.toNat < 0x110000 := c.valid
  have same : c = Char.ofNat c.toNat := (Char.ofNat_toNat c).symm
  rw [utf8EncodeChar_eq]
  split
  · exact (decodeFrom_ascii (by omega)).trans (by rw [← same]; rfl)
  split
  · exact (decodeFrom_two (by omega) (by omega)).trans (by rw [← same]; rfl)
  split
  · exact (decodeFrom_three (by omega) (by omega) (by omega)).trans (by rw [← same]; rfl)
  · exact (decodeFrom_four (by omega) (by omega)).trans (by rw [← same]; rfl)

theorem decodeFrom_encode (index : Nat) (read : String) (cs : List Char) :
    decodeFrom index none read (cs.flatMap String.utf8EncodeChar) = .ok (read ++ .ofList cs) := by
  induction cs generalizing index read with
  | nil => simp [decodeFrom]
  | cons c cs ih =>
    have pushed : read.push c ++ .ofList cs = read ++ .ofList (c :: cs) := by
      rw [← String.toList_inj]
      simp
    rw [List.flatMap_cons, decodeFrom_char, ih, pushed]

/-- What was encoded is decoded to the text it was. -/
theorem decode_encode (s : String) : decode (encode s) = .ok s := by
  rw [decode, encode, decodeFrom_encode]
  simp

theorem lead?_none (start : Nat) {n : Nat} (byte : n < 256) (outside : n < 0xC2 ∨ 0xF4 < n) :
    lead? start (.ofNat n) = none := by
  simp only [lead?, UInt8.le_iff_toNat_le, ← UInt8.toNat_inj, UInt8.toNat_ofNat_of_lt' byte,
    UInt8.reduceToNat]
  rw [if_neg (by omega), if_neg (by omega), if_neg (by omega), if_neg (by omega),
    if_neg (by omega), if_neg (by omega), if_neg (by omega)]

/-- A character under way ends with a byte of the range that it asks for. -/
theorem decodeFrom_last_ok {index start taken value : Nat} {low high : UInt8} {read s : String}
    {bytes : List UInt8}
    (ran : decodeFrom index (some ⟨start, taken, 1, value, low, high⟩) read bytes = .ok s) :
    ∃ n rest, bytes = .ofNat n :: rest ∧ low.toNat ≤ n ∧ n ≤ high.toNat ∧
      decodeFrom (index + 1) none (read.push (.ofNat (value * 64 + n % 64))) rest = .ok s := by
  cases bytes with
  | nil => simp [decodeFrom] at ran
  | cons b rest =>
    simp only [decodeFrom, UInt8.le_iff_toNat_le, Nat.le_refl, ↓reduceIte] at ran
    split at ran
    · rename_i within
      exact ⟨b.toNat, rest, by rw [UInt8.ofNat_toNat], within.1, within.2, ran⟩
    · cases ran

/-- So it does before the last byte. -/
theorem decodeFrom_more_ok {index start taken missing value : Nat} {low high : UInt8}
    {read s : String} {bytes : List UInt8}
    (ran : decodeFrom index (some ⟨start, taken, missing + 2, value, low, high⟩) read bytes =
      .ok s) :
    ∃ n rest, bytes = .ofNat n :: rest ∧ low.toNat ≤ n ∧ n ≤ high.toNat ∧
      decodeFrom (index + 1)
        (some ⟨start, taken + 1, missing + 1, value * 64 + n % 64, 0x80, 0xBF⟩) read rest =
        .ok s := by
  cases bytes with
  | nil => simp [decodeFrom] at ran
  | cons b rest =>
    have longer : ¬ missing + 2 ≤ 1 := by omega
    simp only [decodeFrom, UInt8.le_iff_toNat_le, longer, ↓reduceIte] at ran
    split at ran
    · rename_i within
      exact ⟨b.toNat, rest, by rw [UInt8.ofNat_toNat], within.1, within.2, ran⟩
    · cases ran

theorem toNat_ofNat_scalar {n : Nat} (scalar : n < 0xD800 ∨ 0xDFFF < n ∧ n < 0x110000) :
    (Char.ofNat n).toNat = n := by
  rw [Char.toNat_ofNat, if_pos scalar]

/-- Two bytes in their ranges are those of the character that they stand for. -/
theorem utf8EncodeChar_two {n m : Nat} (low : 0xC2 ≤ n) (high : n ≤ 0xDF) (above : 0x80 ≤ m)
    (below : m ≤ 0xBF) :
    String.utf8EncodeChar (.ofNat (n % 32 * 64 + m % 64)) = [.ofNat n, .ofNat m] := by
  rw [utf8EncodeChar_eq, toNat_ofNat_scalar (by omega), if_neg (by omega), if_pos (by omega)]
  have first : (n % 32 * 64 + m % 64) / 64 % 32 + 0xC0 = n := by omega
  have second : (n % 32 * 64 + m % 64) % 64 + 0x80 = m := by omega
  rw [first, second]

/-- The range of the second byte leaves out short forms and surrogates. -/
theorem utf8EncodeChar_three {n m k : Nat} (low : 0xE0 ≤ n) (high : n ≤ 0xEF)
    (above : (if n = 0xE0 then 0xA0 else 0x80) ≤ m) (below : m ≤ if n = 0xED then 0x9F else 0xBF)
    (least : 0x80 ≤ k) (most : k ≤ 0xBF) :
    String.utf8EncodeChar (.ofNat ((n % 16 * 64 + m % 64) * 64 + k % 64)) =
      [.ofNat n, .ofNat m, .ofNat k] := by
  have range : 0x80 ≤ m ∧ m ≤ 0xBF := by split at above <;> split at below <;> omega
  generalize value : (n % 16 * 64 + m % 64) * 64 + k % 64 = v
  have long : 0x800 ≤ v := by split at above <;> omega
  have scalar : v < 0xD800 ∨ 0xDFFF < v := by split at below <;> omega
  have first : v / 4096 % 16 + 0xE0 = n := by omega
  have second : v / 64 % 64 + 0x80 = m := by omega
  have third : v % 64 + 0x80 = k := by omega
  rw [utf8EncodeChar_eq, toNat_ofNat_scalar (by omega), if_neg (by omega), if_neg (by omega),
    if_pos (by omega), first, second, third]

/-- The range of the second byte leaves out short forms and what lies beyond the last
character. -/
theorem utf8EncodeChar_four {n m k l : Nat} (low : 0xF0 ≤ n) (high : n ≤ 0xF4)
    (above : (if n = 0xF0 then 0x90 else 0x80) ≤ m) (below : m ≤ if n = 0xF4 then 0x8F else 0xBF)
    (least : 0x80 ≤ k ∧ 0x80 ≤ l) (most : k ≤ 0xBF ∧ l ≤ 0xBF) :
    String.utf8EncodeChar (.ofNat (((n % 8 * 64 + m % 64) * 64 + k % 64) * 64 + l % 64)) =
      [.ofNat n, .ofNat m, .ofNat k, .ofNat l] := by
  have range : 0x80 ≤ m ∧ m ≤ 0xBF := by split at above <;> split at below <;> omega
  generalize value : ((n % 8 * 64 + m % 64) * 64 + k % 64) * 64 + l % 64 = v
  have long : 0x10000 ≤ v := by split at above <;> omega
  have scalar : v < 0x110000 := by split at below <;> omega
  have first : v / 262144 % 8 + 0xF0 = n := by omega
  have second : v / 4096 % 64 + 0x80 = m := by omega
  have third : v / 64 % 64 + 0x80 = k := by omega
  have fourth : v % 64 + 0x80 = l := by omega
  rw [utf8EncodeChar_eq, toNat_ofNat_scalar (by omega), if_neg (by omega), if_neg (by omega),
    if_neg (by omega), first, second, third, fourth]

/-- Whatever is decoded begins with the bytes of a character. -/
theorem decodeFrom_ok_char {index : Nat} {read s : String} {b : UInt8} {rest : List UInt8}
    (ran : decodeFrom index none read (b :: rest) = .ok s) :
    ∃ c tail next, b :: rest = String.utf8EncodeChar c ++ tail ∧
      decodeFrom next none (read.push c) tail = .ok s := by
  obtain ⟨n, byte, rfl⟩ : ∃ n, n < 256 ∧ b = .ofNat n :=
    ⟨b.toNat, b.toNat_lt, UInt8.ofNat_toNat.symm⟩
  rcases Nat.lt_or_ge n 0x80 with ascii | large
  · rw [decodeFrom_ascii ascii] at ran
    refine ⟨.ofNat n, rest, _, ?_, ran⟩
    rw [utf8EncodeChar_eq, toNat_ofNat_scalar (by omega), if_pos (by omega)]
    rfl
  have leads : 0xC2 ≤ n ∧ n ≤ 0xF4 := by
    by_contra outside
    have notAscii : ¬ n < 0x80 := by omega
    simp [decodeFrom, UInt8.lt_iff_toNat_lt, UInt8.toNat_ofNat_of_lt' byte, notAscii,
      lead?_none index byte (by omega)] at ran
  rcases Nat.lt_or_ge 0xDF n with long | two
  · rcases Nat.lt_or_ge 0xEF n with four | three
    · rw [decodeFrom_lead large byte (lead?_four four leads.2)] at ran
      obtain ⟨m, _, rfl, above, below, ran⟩ := decodeFrom_more_ok ran
      obtain ⟨k, _, rfl, least, most, ran⟩ := decodeFrom_more_ok ran
      obtain ⟨l, tail, rfl, least', most', ran⟩ := decodeFrom_last_ok ran
      rw [apply_ite UInt8.toNat] at above below
      refine ⟨_, tail, _, ?_, ran⟩
      rw [utf8EncodeChar_four four leads.2 above below ⟨least, least'⟩ ⟨most, most'⟩]
      rfl
    · rw [decodeFrom_lead large byte (lead?_three long three)] at ran
      obtain ⟨m, _, rfl, above, below, ran⟩ := decodeFrom_more_ok ran
      obtain ⟨k, tail, rfl, least, most, ran⟩ := decodeFrom_last_ok ran
      rw [apply_ite UInt8.toNat] at above below
      refine ⟨_, tail, _, ?_, ran⟩
      rw [utf8EncodeChar_three long three above below least most]
      rfl
  · rw [decodeFrom_lead large byte (lead?_two leads.1 two)] at ran
    obtain ⟨m, tail, rfl, above, below, ran⟩ := decodeFrom_last_ok ran
    refine ⟨_, tail, _, ?_, ran⟩
    rw [utf8EncodeChar_two leads.1 two above below]
    rfl

theorem decodeFrom_ok {index : Nat} {read s : String} {bytes : List UInt8}
    (ran : decodeFrom index none read bytes = .ok s) :
    ∃ cs : List Char, bytes = cs.flatMap String.utf8EncodeChar ∧ s = read ++ .ofList cs := by
  induction size : bytes.length using Nat.strongRecOn generalizing index read bytes with
  | ind count ih =>
    cases bytes with
    | nil =>
      simp only [decodeFrom, Except.ok.injEq] at ran
      exact ⟨[], rfl, by simp [ran]⟩
    | cons b rest =>
      obtain ⟨c, tail, next, front, ran⟩ := decodeFrom_ok_char ran
      have pos := String.length_utf8EncodeChar c ▸ c.utf8Size_pos
      have shorter : tail.length < count := by
        rw [front, List.length_append] at size
        omega
      obtain ⟨cs, rfl, rfl⟩ := ih tail.length shorter ran rfl
      refine ⟨c :: cs, by rw [front, List.flatMap_cons], ?_⟩
      rw [← String.toList_inj]
      simp

/-- Only the bytes of a text are decoded to it. -/
theorem decode_ok_iff (bytes : List UInt8) (s : String) :
    decode bytes = .ok s ↔ bytes = encode s := by
  refine ⟨fun ran => ?_, fun same => same ▸ decode_encode s⟩
  obtain ⟨cs, rfl, rfl⟩ := decodeFrom_ok ran
  simp [encode]

end ScriptHost.Utf8
