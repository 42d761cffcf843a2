import ScriptHost.Proofs.Number.Integers

/-! No number is nearer to an integer than the one that is made of it. Numbers of its power of two or a
greater one are multiples of its last place, and it is the nearest multiple. All others are below the least
number of its power of two, which is such a multiple and not above the integer.

A finite number stands for an integer just when its significand is a multiple of the power of two that it is
scaled down by; data keep such a number as an integer if it has 53 bits at most and is no negative zero.

A finite pattern of bits counts units of `2 ^ -1075`, so whether it stands for an integer is settled among
integers, without a division or a rounding. Two patterns stand for one integer only where they are the two
zeros; so data keep just those numbers as integers that the integer gives back bit for bit. -/

namespace ScriptHost.Double

/-- What a finite number stands for. -/
def value (d : Double) : ℚ := (if d.negative then -1 else 1) * (d.significand * 2 ^ d.scale)

theorem significand_lt (d : Double) : d.significand < 2 ^ 53 := by
  unfold significand fractionField
  simp only [Nat.pow_eq]
  split <;> omega

theorem roundHalfEven_mul (num den : Nat) :
    (roundHalfEven num den * den = num / den * den ∧ 2 * (num % den) ≤ den) ∨
      (roundHalfEven num den * den = num / den * den + den ∧ den ≤ 2 * (num % den)) := by
  unfold roundHalfEven
  dsimp only
  split_ifs with low high
  · exact .inl ⟨rfl, low.le⟩
  · exact .inr ⟨Nat.succ_mul _ _, high.le⟩
  · rcases Nat.mod_two_eq_zero_or_one (num / den) with even | odd
    · rw [even, Nat.add_zero]
      exact .inl ⟨rfl, by omega⟩
    · rw [odd]
      exact .inr ⟨Nat.succ_mul _ _, by omega⟩

/-- Every multiple of `den` is at most the one below `num` or at least the one above it. -/
theorem roundHalfEven_nearest (num : Nat) {den : Nat} (pos : 0 < den) (k : Int) :
    |(roundHalfEven num den : Int) * den - num| ≤ |k * den - num| := by
  have whole : (num : Int) = (num / den * den : Nat) + (num % den : Nat) := by
    exact_mod_cast (Nat.div_add_mod' num den).symm
  have rest : num % den < den := Nat.mod_lt num pos
  have far : k * den ≤ (num / den * den : Nat) ∨ (num / den * den : Nat) + (den : Int) ≤ k * den := by
    rcases lt_or_ge ((num / den : Nat) : Int) k with above | below
    · right
      calc ((num / den * den : Nat) + den : Int) = ((num / den : Nat) + 1) * den := by push_cast; ring
        _ ≤ k * den := Int.mul_le_mul_of_nonneg_right above (by omega)
    · left
      rw [Nat.cast_mul]
      exact Int.mul_le_mul_of_nonneg_right below (by omega)
  have above := le_abs_self (k * den - num)
  have below := neg_le_abs (k * den - num)
  rw [← Nat.cast_mul, abs_le]
  rcases roundHalfEven_mul num den with ⟨down, half⟩ | ⟨up, half⟩
  · rw [down]
    omega
  · rw [up]
    omega

variable {n : Nat}

/-- The number made of an integer, in units of its last place. -/
theorem value_ofRatio (some : n ≠ 0) (few : n.log2 < 1000) (negative : Bool) :
    (ofRatio negative n 1).value =
      (if negative then -1 else 1) * (rounded n * 2 ^ ((n.log2 : Int) - 52)) := by
  have small := magnitudeOf_lt few
  have bounds := rounded_bounds some
  rw [value, negative_ofRatio few, ofRatio_one few, significand, scale, exponentField_ofMagnitude small,
    fractionField_ofMagnitude small, magnitudeOf, if_neg some]
  congr 1
  rcases bounds.2.lt_or_eq with narrow | carry
  · have field : ((n.log2 + 1022) * 2 ^ 52 + rounded n) / 2 ^ 52 = n.log2 + 1023 := by omega
    have fraction : ((n.log2 + 1022) * 2 ^ 52 + rounded n) % 2 ^ 52 = rounded n - 2 ^ 52 := by omega
    have wide : (n.log2 + 1023).max 1 = n.log2 + 1023 := Nat.max_eq_left (by omega)
    have power : ((n.log2 + 1023 : Nat) : Int) - 1075 = (n.log2 : Int) - 52 := by omega
    rw [field, fraction, if_neg (by omega), Nat.pow_eq, Nat.add_sub_of_le bounds.1, wide, power]
  · have field : ((n.log2 + 1022) * 2 ^ 52 + rounded n) / 2 ^ 52 = n.log2 + 1024 := by omega
    have fraction : ((n.log2 + 1022) * 2 ^ 52 + rounded n) % 2 ^ 52 = 0 := by omega
    have power : ((n.log2 + 1024 : Nat) : Int) - 1075 = (n.log2 : Int) - 52 + 1 := by omega
    have wide : (n.log2 + 1024).max 1 = n.log2 + 1024 := Nat.max_eq_left (by omega)
    rw [field, fraction, if_neg (by omega), Nat.pow_eq, wide, power, carry, zpow_add_one₀ two_ne_zero]
    push_cast
    ring

theorem rounded_nearest (k : Int) :
    |(rounded n : ℚ) * 2 ^ ((n.log2 : Int) - 52) - n| ≤ |(k : ℚ) * 2 ^ ((n.log2 : Int) - 52) - n| := by
  have unit : (2 : ℚ) ^ ((n.log2 : Int) - 52) * 2 ^ (52 - n.log2) = 2 ^ (n.log2 - 52) := by
    rw [← zpow_natCast, ← zpow_natCast, ← zpow_add₀ two_ne_zero]
    congr 1
    omega
  have scaled (q : ℚ) : |q * 2 ^ ((n.log2 : Int) - 52) - n| * 2 ^ (52 - n.log2) =
      |q * 2 ^ (n.log2 - 52) - n * 2 ^ (52 - n.log2)| := by
    rw [← unit, ← abs_of_pos (by positivity : (0 : ℚ) < 2 ^ (52 - n.log2)), ← abs_mul]
    congr 1
    rw [abs_of_pos (by positivity)]
    ring
  have near := roundHalfEven_nearest (n * 2 ^ (52 - n.log2)) (Nat.two_pow_pos (n.log2 - 52)) k
  refine le_of_mul_le_mul_right ?_ (by positivity : (0 : ℚ) < 2 ^ (52 - n.log2))
  rw [scaled, scaled]
  exact_mod_cast near

theorem rounded_le (some : n ≠ 0) (z e : Int) (short : |z| < 2 ^ 53) :
    |(rounded n : ℚ) * 2 ^ ((n.log2 : Int) - 52) - n| ≤ |(z : ℚ) * 2 ^ e - n| := by
  rcases lt_or_ge e ((n.log2 : Int) - 52) with fine | coarse
  · have least : ((2 ^ 52 : Int) : ℚ) * 2 ^ ((n.log2 : Int) - 52) = 2 ^ n.log2 := by
      rw [Int.cast_pow, Int.cast_ofNat, ← zpow_natCast, ← zpow_natCast, ← zpow_add₀ two_ne_zero]
      congr 1
      omega
    have low : (2 : ℚ) ^ n.log2 ≤ n := by exact_mod_cast Nat.log2_self_le some
    have below : (z : ℚ) * 2 ^ e ≤ 2 ^ n.log2 := by
      have bound : (z : ℚ) ≤ 2 ^ 53 := by exact_mod_cast (le_abs_self z).trans short.le
      calc (z : ℚ) * 2 ^ e ≤ 2 ^ 53 * 2 ^ e := by gcongr
        _ = 2 ^ (53 + e) := by rw [← zpow_natCast, ← zpow_add₀ two_ne_zero]; rfl
        _ ≤ 2 ^ (n.log2 : Int) := zpow_le_zpow_right₀ one_le_two (by omega)
        _ = 2 ^ n.log2 := zpow_natCast 2 n.log2
    refine (rounded_nearest (2 ^ 52)).trans ?_
    rw [least, abs_of_nonpos (by linarith), abs_of_nonpos (by linarith)]
    linarith
  · have multiple : (z : ℚ) * 2 ^ e =
        ((z * 2 ^ (e - (n.log2 - 52)).toNat : Int) : ℚ) * 2 ^ ((n.log2 : Int) - 52) := by
      push_cast
      rw [← zpow_natCast, mul_assoc, ← zpow_add₀ two_ne_zero]
      congr 2
      omega
    rw [multiple]
    exact rounded_nearest _

theorem exists_value (d : Double) : ∃ z : Int, |z| < 2 ^ 53 ∧ d.value = z * 2 ^ d.scale := by
  have short : (d.significand : Int) < 2 ^ 53 := by exact_mod_cast d.significand_lt
  unfold value
  split
  · exact ⟨-d.significand, by rwa [abs_neg, Nat.abs_cast], by push_cast; ring⟩
  · exact ⟨d.significand, by rwa [Nat.abs_cast], by push_cast; ring⟩

/-- No number is nearer to an integer than the one that is made of it. -/
theorem ofInt_nearest {i : Int} (few : i.natAbs.log2 < 1000) (d : Double) :
    |(ofInt i).value - i| ≤ |d.value - i| := by
  obtain ⟨z, short, means⟩ := d.exists_value
  by_cases none : i = 0
  · subst none
    have zero : (ofInt 0).value = 0 := by
      rw [value, show (ofInt 0).significand = 0 by decide]
      simp
    rw [zero]
    simp
  · have some : i.natAbs ≠ 0 := Int.natAbs_ne_zero.mpr none
    rw [ofInt, value_ofRatio some few, means]
    rcases lt_or_ge i 0 with below | above
    · have size : (i : ℚ) = -(i.natAbs : ℚ) := by
        rw [Nat.cast_natAbs, abs_of_neg below, Int.cast_neg, neg_neg]
      have mirrored := rounded_le some (-z) d.scale (by rwa [abs_neg])
      rw [decide_eq_true below, if_pos rfl, size]
      calc |-1 * (rounded i.natAbs * 2 ^ ((i.natAbs.log2 : Int) - 52)) - -(i.natAbs : ℚ)|
          = |(rounded i.natAbs : ℚ) * 2 ^ ((i.natAbs.log2 : Int) - 52) - i.natAbs| := by
            rw [← abs_neg]
            congr 1
            ring
        _ ≤ |((-z : Int) : ℚ) * 2 ^ d.scale - i.natAbs| := mirrored
        _ = |z * 2 ^ d.scale - -(i.natAbs : ℚ)| := by
            rw [← abs_neg]
            congr 1
            push_cast
            ring
    · have size : (i : ℚ) = i.natAbs := by
        rw [Nat.cast_natAbs, abs_of_nonneg above]
      rw [decide_eq_false above.not_gt, size]
      simpa using rounded_le some z d.scale short

end ScriptHost.Double

/-! ### The numbers that are integers -/

namespace ScriptHost

namespace Double

/-- Of the two powers of two one is `1`. -/
theorem magnitude_eq (d : Double) : (d.significand : ℚ) * 2 ^ d.scale =
    (d.significand * 2 ^ d.scale.toNat : ℕ) / (2 ^ (-d.scale).toNat : ℕ) := by
  rcases le_total 0 d.scale with up | down
  · have none : (-d.scale).toNat = 0 := by omega
    have power : (2 : ℚ) ^ d.scale = 2 ^ d.scale.toNat := by
      rw [← zpow_natCast, Int.toNat_of_nonneg up]
    rw [none, power]
    push_cast
    ring
  · have none : d.scale.toNat = 0 := by omega
    have power : (2 : ℚ) ^ d.scale = 1 / 2 ^ (-d.scale).toNat := by
      rw [one_div, ← zpow_natCast, Int.toNat_of_nonneg (by omega), ← zpow_neg, neg_neg]
    rw [none, power]
    push_cast
    ring

/-- A number is read as the integer that it stands for. -/
theorem toInt?_eq_some_iff {d : Double} (finite : d.isFinite = true) {i : Int} :
    d.toInt? = some i ↔ d.value = i := by
  have size := d.magnitude_eq
  have pos : (2 ^ (-d.scale).toNat : ℕ) ≠ 0 := by positivity
  rw [toInt?, if_pos finite, value, size]
  simp only [Nat.pow_eq]
  by_cases whole : d.significand % 2 ^ (-d.scale).toNat = 0
  · have divides : 2 ^ (-d.scale).toNat ∣ d.significand * 2 ^ d.scale.toNat :=
      (Nat.dvd_of_mod_eq_zero whole).mul_right _
    rw [if_pos whole, ← Nat.cast_div divides (by exact_mod_cast pos), Option.some.injEq]
    split
    · rw [neg_one_mul]
      exact_mod_cast Iff.rfl
    · rw [one_mul, ← @Int.cast_inj ℚ, Int.cast_natCast]
  · rw [if_neg whole]
    refine iff_of_false (by simp) fun means => whole ?_
    -- Not even scaled down is a power of two that is `1`.
    have small : d.scale.toNat = 0 := by
      by_contra up
      have none : (-d.scale).toNat = 0 := by omega
      rw [none, pow_zero, Nat.mod_one] at whole
      exact whole rfl
    rw [small, pow_zero, mul_one] at means
    have scaled : (d.significand : ℚ) =
        (if d.negative then -1 else 1) * i * (2 ^ (-d.scale).toNat : ℕ) := by
      rw [← means]
      split <;> field_simp
    have integral : (d.significand : ℤ) =
        (if d.negative then -1 else 1) * i * (2 ^ (-d.scale).toNat : ℕ) := by
      exact_mod_cast scaled
    have divides : ((2 ^ (-d.scale).toNat : ℕ) : ℤ) ∣ d.significand := integral ▸ dvd_mul_left _ _
    exact Nat.mod_eq_zero_of_dvd (Int.natCast_dvd_natCast.mp divides)

/-- The number is this integer of 53 bits at most, and no negative zero. -/
structure IsInteger (d : Double) (i : Int) : Prop where
  finite : d.isFinite = true
  value : d.value = i
  safe : i.natAbs ≤ 2 ^ 53 - 1
  unsigned : d.isNegativeZero = false

end Double

namespace Datum

open Double

theorem ofDouble_of_isInteger {d : Double} {i : Int} (whole : d.IsInteger i) :
    ofDouble d = .int (Int64.ofInt i) := by
  have safe : i.natAbs ≤ maxSafeInteger := whole.safe
  rw [ofDouble, (toInt?_eq_some_iff whole.finite).mpr whole.value]
  simp [safe, whole.unsigned]

theorem ofDouble_of_not_isInteger {d : Double} (broken : ∀ i, ¬ d.IsInteger i) :
    ofDouble d = .float d := by
  unfold ofDouble
  split
  · rename_i i read
    have finite : d.isFinite = true := by
      by_contra infinite
      rw [toInt?, if_neg infinite] at read
      cases read
    refine if_neg ?_
    rintro ⟨safe, unsigned⟩
    exact broken i ⟨finite, (toInt?_eq_some_iff finite).mp read, safe, by simpa using unsigned⟩
  · rfl

/-- Data keep a number as an integer or as it is. -/
theorem ofDouble_cases (d : Double) : (∃ i, d.IsInteger i ∧ ofDouble d = .int (Int64.ofInt i)) ∨
    (∀ i, ¬ d.IsInteger i) ∧ ofDouble d = .float d := by
  by_cases whole : ∃ i, d.IsInteger i
  · obtain ⟨i, whole⟩ := whole
    exact .inl ⟨i, whole, ofDouble_of_isInteger whole⟩
  · rw [not_exists] at whole
    exact .inr ⟨whole, ofDouble_of_not_isInteger whole⟩

end Datum

end ScriptHost

/-! ### Integers as bits -/

namespace ScriptHost.Double

/-- The magnitude of a finite pattern in units of `2 ^ -1075`. The exponent field is the power of two of the
last place; where it is zero the power is that of one, and the fraction has no leading bit. -/
def units (b : UInt64) : Nat :=
  let field := b.toNat / 2 ^ 52 % 2 ^ 11
  let fraction := b.toNat % 2 ^ 52
  if field = 0 then fraction * 2 else (2 ^ 52 + fraction) * 2 ^ field

/-- The bits are those of a finite number, and it is this integer. -/
structure Encodes (b : UInt64) (i : Int) : Prop where
  finite : b.toNat / 2 ^ 52 % 2 ^ 11 ≠ 2047
  exact : i * 2 ^ 1075 = (-1) ^ (b.toNat / 2 ^ 63) * units b

theorem magnitude_eq_units (d : Double) :
    (d.significand : ℚ) * 2 ^ d.scale * 2 ^ 1075 = units d.bits := by
  have power (p : Int) (n : Nat) (sum : p + 1075 = n) : (2 : ℚ) ^ p * 2 ^ 1075 = 2 ^ n := by
    rw [← zpow_natCast, ← zpow_natCast, ← zpow_add₀ two_ne_zero, ← sum]
    rfl
  unfold significand scale units exponentField fractionField
  simp only [Nat.pow_eq, mul_assoc]
  split
  · rename_i low
    rw [low, power _ 1 rfl]
    push_cast
    ring
  · rename_i high
    have field : (d.bits.toNat / 2 ^ 52 % 2 ^ 11).max 1 = d.bits.toNat / 2 ^ 52 % 2 ^ 11 :=
      Nat.max_eq_left (by omega)
    rw [field, power _ _ (sub_add_cancel _ _)]
    push_cast
    rfl

theorem sign_eq (d : Double) :
    (if d.negative then -1 else 1 : ℚ) = (-1) ^ (d.bits.toNat / 2 ^ 63) := by
  have bound := d.bits.toNat_lt
  unfold negative
  rw [Nat.pow_eq]
  by_cases minus : 2 ^ 63 ≤ d.bits.toNat
  · have one : d.bits.toNat / 2 ^ 63 = 1 := by omega
    rw [one, decide_eq_true minus, if_pos rfl, pow_one]
  · have none : d.bits.toNat / 2 ^ 63 = 0 := by omega
    rw [none, decide_eq_false minus, if_neg (by simp), pow_zero]

/-- What is said of the bits among integers is what is said of the number among fractions. -/
theorem encodes_iff {d : Double} {i : Int} :
    Encodes d.bits i ↔ d.isFinite = true ∧ d.value = i := by
  have finite : d.isFinite = true ↔ d.bits.toNat / 2 ^ 52 % 2 ^ 11 ≠ 2047 := by
    rw [isFinite, exponentField, bne_iff_ne]
    rfl
  have scaled : d.value * 2 ^ 1075 = (((-1) ^ (d.bits.toNat / 2 ^ 63) * units d.bits : Int) : ℚ) := by
    rw [value, sign_eq, mul_assoc, magnitude_eq_units]
    push_cast
    rfl
  have exact : d.value = i ↔ i * 2 ^ 1075 = (-1) ^ (d.bits.toNat / 2 ^ 63) * units d.bits := by
    rw [← @Int.cast_inj ℚ, ← scaled, Int.cast_mul, Int.cast_pow, Int.cast_ofNat, eq_comm]
    exact (mul_left_inj' (pow_ne_zero 1075 two_ne_zero)).symm
  rw [finite, exact]
  constructor
  · rintro ⟨finite, exact⟩
    exact ⟨finite, exact⟩
  · rintro ⟨finite, exact⟩
    exact ⟨finite, exact⟩

theorem isNegativeZero_eq_false_iff {d : Double} :
    d.isNegativeZero = false ↔ d.bits.toNat ≠ 2 ^ 63 := by
  have bound := d.bits.toNat_lt
  rw [← Bool.not_eq_true, isNegativeZero, isZero, negative, exponentField, fractionField,
    Bool.and_eq_true, Bool.and_eq_true, decide_eq_true_eq, beq_iff_eq, beq_iff_eq]
  simp only [Nat.pow_eq]
  omega

theorem isInteger_iff {d : Double} {i : Int} :
    d.IsInteger i ↔ Encodes d.bits i ∧ i.natAbs ≤ 2 ^ 53 - 1 ∧ d.bits.toNat ≠ 2 ^ 63 := by
  rw [encodes_iff, ← isNegativeZero_eq_false_iff]
  constructor
  · rintro ⟨finite, value, safe, unsigned⟩
    exact ⟨⟨finite, value⟩, safe, unsigned⟩
  · rintro ⟨⟨finite, value⟩, safe, unsigned⟩
    exact ⟨finite, value, safe, unsigned⟩

/-! ### Patterns of one integer -/

/-- A place is doubled only for a significand that has its leading bit, so no other place makes up for it. -/
theorem place_le {m n x y : Nat} (narrow : m < 2 ^ 53) (full : x < y → 2 ^ 52 ≤ n)
    (same : m * 2 ^ x = n * 2 ^ y) : y ≤ x := by
  by_contra before
  have wide : 2 ^ 53 ≤ m := by
    refine Nat.le_of_mul_le_mul_right ?_ (Nat.two_pow_pos x)
    calc 2 ^ 53 * 2 ^ x = 2 ^ 52 * 2 ^ (x + 1) := by ring
      _ ≤ n * 2 ^ y := Nat.mul_le_mul (full (by omega)) (Nat.pow_le_pow_right (by omega) (by omega))
      _ = m * 2 ^ x := same.symm
  omega

/-- The magnitude is a significand at some place. All but the lowest place have the leading bit, and the two
together are the bits without the sign. -/
theorem exists_significand (b : UInt64) : ∃ m x, units b = m * 2 ^ x ∧ m < 2 ^ 53 ∧ 1 ≤ x ∧
    (1 < x → 2 ^ 52 ≤ m) ∧ b.toNat % 2 ^ 63 + 2 ^ 52 = m + x * 2 ^ 52 := by
  unfold units
  dsimp only
  split
  · exact ⟨b.toNat % 2 ^ 52, 1, by rw [pow_one], by omega, le_rfl, by omega, by omega⟩
  · refine ⟨2 ^ 52 + b.toNat % 2 ^ 52, b.toNat / 2 ^ 52 % 2 ^ 11, rfl, ?_, ?_, ?_, ?_⟩ <;> omega

/-- Patterns of one magnitude agree in all bits but the sign. -/
theorem mod_eq_of_units_eq {b c : UInt64} (same : units b = units c) :
    b.toNat % 2 ^ 63 = c.toNat % 2 ^ 63 := by
  obtain ⟨m, x, isB, narrowB, atLeastB, fullB, lowB⟩ := exists_significand b
  obtain ⟨n, y, isC, narrowC, atLeastC, fullC, lowC⟩ := exists_significand c
  rw [isB, isC] at same
  have places : x = y := by
    refine le_antisymm ?_ ?_
    · exact place_le narrowC (fun before => fullB (by omega)) same.symm
    · exact place_le narrowB (fun before => fullC (by omega)) same
  rw [places] at same lowB
  have significands : m = n := Nat.eq_of_mul_eq_mul_right (Nat.two_pow_pos y) same
  omega

theorem mod_eq_zero_of_units {b : UInt64} (none : units b = 0) : b.toNat % 2 ^ 63 = 0 :=
  mod_eq_of_units_eq (c := 0) none

/-- One integer has one pattern, but for the negative zero. -/
theorem eq_of_encodes {b c : UInt64} {i : Int} (one : Encodes b i) (other : Encodes c i)
    (unsignedB : b.toNat ≠ 2 ^ 63) (unsignedC : c.toNat ≠ 2 ^ 63) : b = c := by
  have boundB := b.toNat_lt
  have boundC := c.toNat_lt
  have exact : (-1 : Int) ^ (b.toNat / 2 ^ 63) * units b = (-1) ^ (c.toNat / 2 ^ 63) * units c :=
    one.exact.symm.trans other.exact
  have magnitudes : units b = units c := by
    simpa only [Int.natAbs_mul, Int.natAbs_pow, Int.natAbs_neg, Int.natAbs_one, one_pow, one_mul,
      Int.natAbs_natCast] using congrArg Int.natAbs exact
  have low := mod_eq_of_units_eq magnitudes
  have signB : b.toNat / 2 ^ 63 = 0 ∨ b.toNat / 2 ^ 63 = 1 := by omega
  have signC : c.toNat / 2 ^ 63 = 0 ∨ c.toNat / 2 ^ 63 = 1 := by omega
  rw [← UInt64.toNat_inj]
  -- Numbers of opposite signs are the same only as zeros.
  rw [magnitudes] at exact
  rcases signB with plusB | minusB <;> rcases signC with plusC | minusC
  · omega
  · rw [plusB, minusC] at exact
    have none := mod_eq_zero_of_units (b := c) (by omega)
    omega
  · rw [minusB, plusC] at exact
    have none := mod_eq_zero_of_units (b := c) (by omega)
    omega
  · omega

/-- An integer of 53 bits at most, turned into a number, has the bits that it was read from. -/
theorem bits_ofInt {b : UInt64} {i : Int} (encodes : Encodes b i) (safe : i.natAbs ≤ 2 ^ 53 - 1)
    (unsigned : b.toNat ≠ 2 ^ 63) : (ofInt i).bits = b := by
  have few : i.natAbs.log2 < 1000 := by
    have short : i.natAbs.log2 ≤ (2 ^ 53).log2 := log2_mono (by omega)
    exact short.trans_lt (by decide)
  have finite : (ofInt i).isFinite = true := isFinite_ofRatio few _
  have read : (ofInt i).value = i := (toInt?_eq_some_iff finite).mp (toInt?_ofInt (by omega))
  exact eq_of_encodes (encodes_iff.mpr ⟨finite, read⟩) encodes
    (isNegativeZero_eq_false_iff.mp (ofInt_not_negativeZero few)) unsigned

end ScriptHost.Double

namespace ScriptHost.Datum

open Double

/-- A number is kept as an integer just when its bits encode that integer, which has 53 bits at most, and are
not the negative zero; the integer then has these bits as a number. Any other is kept with its bits: the
negative zero, larger integers, and what encodes no integer, be it infinite, not a number or a fraction. -/
theorem ofDouble_exact (b : UInt64) :
    (∀ i : Int64, ofDouble ⟨b⟩ = .int i ↔
      Encodes b i.toInt ∧ i.toInt.natAbs ≤ 2 ^ 53 - 1 ∧ b.toNat ≠ 2 ^ 63) ∧
    (∀ i : Int64, ofDouble ⟨b⟩ = .int i → (ofInt i.toInt).bits = b) ∧
    (ofDouble ⟨b⟩ = .float ⟨b⟩ ↔ b.toNat = 2 ^ 63 ∨ ∀ i : Int, Encodes b i → 2 ^ 53 ≤ i.natAbs) := by
  have kept (i : Int64) : ofDouble ⟨b⟩ = .int i ↔
      Encodes b i.toInt ∧ i.toInt.natAbs ≤ 2 ^ 53 - 1 ∧ b.toNat ≠ 2 ^ 63 := by
    constructor
    · intro read
      obtain ⟨j, whole, same⟩ | ⟨-, same⟩ := ofDouble_cases ⟨b⟩
      · obtain rfl := Datum.int.inj (read.symm.trans same)
        have safe := whole.safe
        rw [Int64.toInt_ofInt_of_le (by omega) (by omega)]
        exact isInteger_iff.mp whole
      · cases read.symm.trans same
    · intro whole
      rw [ofDouble_of_isInteger (isInteger_iff.mpr whole), Int64.ofInt_toInt]
  refine ⟨kept, fun i read => ?_, ?_⟩
  · obtain ⟨encodes, safe, unsigned⟩ := (kept i).mp read
    exact bits_ofInt encodes safe unsigned
  · obtain ⟨i, whole, same⟩ | ⟨broken, same⟩ := ofDouble_cases ⟨b⟩
    · obtain ⟨encodes, safe, unsigned⟩ := isInteger_iff.mp whole
      rw [same]
      refine iff_of_false (by simp) ?_
      rintro (zero | large)
      · exact unsigned zero
      · have beyond := large i encodes
        omega
    · refine iff_of_true same ?_
      by_contra other
      push Not at other
      obtain ⟨unsigned, i, encodes, small⟩ := other
      exact broken i (isInteger_iff.mpr ⟨encodes, by omega, unsigned⟩)

/-- The last integer that is kept, and the first that is not. -/
example : ofDouble ⟨0x433fffffffffffff⟩ = .int 9007199254740991 ∧
    ofDouble ⟨0x4340000000000000⟩ = .float ⟨0x4340000000000000⟩ := ⟨rfl, rfl⟩

end ScriptHost.Datum
