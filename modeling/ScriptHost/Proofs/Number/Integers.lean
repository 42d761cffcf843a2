import Mathlib
import ScriptHost.Datum.Basic

/-! Integers among the numbers. The number nearest to an integer has 53 bits from the leading one on;
so an integer below `2 ^ 53` is held exactly, and every other number that is nearest to an integer
is at least as great as that. -/

namespace ScriptHost.Double

/-! ### The number nearest to an integer -/

theorem log2_one : Nat.log2 1 = 0 := by decide

theorem scaleOfRatio_one {n : Nat} (some : n ≠ 0) (few : n.log2 < 1024) :
    scaleOfRatio n 1 = (n.log2 : Int) - 52 := by
  have low : 2 ^ n.log2 ≤ n := Nat.log2_self_le some
  have full : Nat.pow 2 53 ≤
      n * Nat.pow 2 (-((n.log2 : Int) - Nat.log2 1 - 53)).toNat /
        (1 * Nat.pow 2 ((n.log2 : Int) - Nat.log2 1 - 53).toNat) := by
    simp only [Nat.pow_eq, log2_one, one_mul]
    rcases Nat.le_total n.log2 53 with small | large
    · have up : (-((n.log2 : Int) - (0 : Nat) - 53)).toNat = 53 - n.log2 := by omega
      have down : ((n.log2 : Int) - (0 : Nat) - 53).toNat = 0 := by omega
      rw [up, down, pow_zero, Nat.div_one]
      calc 2 ^ 53 = 2 ^ n.log2 * 2 ^ (53 - n.log2) := by rw [← pow_add]; congr 1; omega
        _ ≤ n * 2 ^ (53 - n.log2) := Nat.mul_le_mul_right _ low
    · have up : (-((n.log2 : Int) - (0 : Nat) - 53)).toNat = 0 := by omega
      have down : ((n.log2 : Int) - (0 : Nat) - 53).toNat = n.log2 - 53 := by omega
      rw [up, down, pow_zero, mul_one, Nat.le_div_iff_mul_le (by positivity)]
      calc 2 ^ 53 * 2 ^ (n.log2 - 53) = 2 ^ n.log2 := by rw [← pow_add]; congr 1; omega
        _ ≤ n := low
  unfold scaleOfRatio
  dsimp only
  rw [if_pos full, log2_one]
  omega

/-- The 53 bits of the number nearest to `n`; rounding up may give one more. -/
def rounded (n : Nat) : Nat :=
  roundHalfEven (n * 2 ^ (52 - n.log2)) (2 ^ (n.log2 - 52))

theorem roundHalfEven_one (n : Nat) : roundHalfEven n 1 = n := by
  simp [roundHalfEven, Nat.mod_one]

theorem rounded_exact {n : Nat} (few : n.log2 ≤ 52) : rounded n = n * 2 ^ (52 - n.log2) := by
  rw [rounded, Nat.sub_eq_zero_of_le few, pow_zero, roundHalfEven_one]

theorem le_roundHalfEven {a num den : Nat} (pos : 0 < den) (le : a * den ≤ num) :
    a ≤ roundHalfEven num den := by
  have quotient : a ≤ num / den := (Nat.le_div_iff_mul_le pos).mpr le
  unfold roundHalfEven
  dsimp only
  split_ifs <;> omega

theorem roundHalfEven_le {a num den : Nat} (pos : 0 < den) (lt : num < a * den) :
    roundHalfEven num den ≤ a := by
  have quotient : num / den < a := (Nat.div_lt_iff_lt_mul pos).mpr lt
  unfold roundHalfEven
  dsimp only
  split_ifs <;> omega

theorem rounded_bounds {n : Nat} (some : n ≠ 0) : 2 ^ 52 ≤ rounded n ∧ rounded n ≤ 2 ^ 53 := by
  have low : 2 ^ n.log2 ≤ n := Nat.log2_self_le some
  have high : n < 2 ^ (n.log2 + 1) := Nat.lt_log2_self
  constructor
  · refine le_roundHalfEven (by positivity) ?_
    calc 2 ^ 52 * 2 ^ (n.log2 - 52) = 2 ^ n.log2 * 2 ^ (52 - n.log2) := by
          rw [← pow_add, ← pow_add]; congr 1; omega
      _ ≤ n * 2 ^ (52 - n.log2) := Nat.mul_le_mul_right _ low
  · refine roundHalfEven_le (by positivity) ?_
    calc n * 2 ^ (52 - n.log2) < 2 ^ (n.log2 + 1) * 2 ^ (52 - n.log2) :=
          Nat.mul_lt_mul_of_pos_right high (by positivity)
      _ = 2 ^ 53 * 2 ^ (n.log2 - 52) := by rw [← pow_add, ← pow_add]; congr 1; omega

/-- The bits of the number nearest to `n`, but for its sign. -/
def magnitudeOf (n : Nat) : Nat := if n = 0 then 0 else (n.log2 + 1022) * 2 ^ 52 + rounded n

theorem ofRatio_one {n : Nat} (few : n.log2 < 1000) (negative : Bool) :
    ofRatio negative n 1 = ofMagnitude negative (magnitudeOf n) := by
  unfold ofRatio magnitudeOf
  split
  · rfl
  · rename_i some
    have bounds := rounded_bounds some
    have up : (-((n.log2 : Int) - 52)).toNat = 52 - n.log2 := by omega
    have down : ((n.log2 : Int) - 52).toNat = n.log2 - 52 := by omega
    have field : ((n.log2 : Int) - 52 + 1074).toNat = n.log2 + 1022 := by omega
    simp only [scaleOfRatio_one some (by omega), up, down, field, Nat.pow_eq, one_mul]
    rw [if_neg (by change ¬ 2047 * 2 ^ 52 ≤ (n.log2 + 1022) * 2 ^ 52 + rounded n; omega)]
    rfl


theorem magnitudeOf_lt {n : Nat} (few : n.log2 < 1000) : magnitudeOf n < 2047 * 2 ^ 52 := by
  unfold magnitudeOf
  split
  · omega
  · have bounds := rounded_bounds ‹_›
    omega

/-! ### Its fields -/

theorem bits_ofMagnitude {m : Nat} (small : m < 2 ^ 63) (negative : Bool) :
    (ofMagnitude negative m).bits.toNat = (if negative then 2 ^ 63 else 0) + m := by
  unfold ofMagnitude
  rw [UInt64.toNat_ofNat', Nat.pow_eq]
  split <;> omega

theorem bits_ofNat {n : Nat} (few : n.log2 < 1000) : (ofNat n).bits.toNat = magnitudeOf n := by
  have small := magnitudeOf_lt few
  rw [ofNat, ofRatio_one few, bits_ofMagnitude (by omega)]
  simp

theorem log2_mono {m n : Nat} (le : m ≤ n) : m.log2 ≤ n.log2 := by
  simpa only [Nat.log2_eq_log_two] using Nat.log_mono_right le

/-- A greater number that is held exactly has greater bits. -/
theorem magnitudeOf_mono {m n : Nat} (exact : m.log2 ≤ 52) (le : m ≤ n) :
    magnitudeOf m ≤ magnitudeOf n := by
  unfold magnitudeOf
  by_cases none : m = 0
  · rw [if_pos none]
    exact Nat.zero_le _
  · have some : n ≠ 0 := by omega
    rw [if_neg none, if_neg some]
    have upper := (rounded_bounds none).2
    have lower := (rounded_bounds some).1
    rcases (log2_mono le).lt_or_eq with wider | same
    · omega
    · rw [rounded_exact exact, rounded_exact (same ▸ exact), same]
      exact Nat.add_le_add_left (Nat.mul_le_mul_right _ le) _

theorem exponentField_ofMagnitude {m : Nat} (small : m < 2047 * 2 ^ 52) (negative : Bool) :
    (ofMagnitude negative m).exponentField = m / 2 ^ 52 := by
  rw [exponentField, bits_ofMagnitude (by omega), Nat.pow_eq, Nat.pow_eq]
  split <;> omega

theorem fractionField_ofMagnitude {m : Nat} (small : m < 2047 * 2 ^ 52) (negative : Bool) :
    (ofMagnitude negative m).fractionField = m % 2 ^ 52 := by
  rw [fractionField, bits_ofMagnitude (by omega), Nat.pow_eq]
  split <;> omega

theorem negative_ofMagnitude {m : Nat} (small : m < 2 ^ 63) (negative : Bool) :
    (ofMagnitude negative m).negative = negative := by
  rw [Double.negative, bits_ofMagnitude small, Nat.pow_eq]
  cases negative
  · simpa using small
  · simp

theorem isFinite_ofMagnitude {m : Nat} (small : m < 2047 * 2 ^ 52) (negative : Bool) :
    (ofMagnitude negative m).isFinite := by
  rw [isFinite, exponentField_ofMagnitude small]
  have : m / 2 ^ 52 < 2047 := by omega
  simp
  omega

theorem significand_ofRatio {n : Nat} (some : n ≠ 0) (exact : n.log2 ≤ 52) (negative : Bool) :
    (ofRatio negative n 1).significand = n * 2 ^ (52 - n.log2) ∧
      (ofRatio negative n 1).scale = (n.log2 : Int) - 52 := by
  have few : n.log2 < 1000 := by omega
  have small := magnitudeOf_lt few
  have bounds := rounded_bounds some
  rw [ofRatio_one few, significand, scale, exponentField_ofMagnitude small,
    fractionField_ofMagnitude small, magnitudeOf, if_neg some]
  have narrow : rounded n < 2 ^ 53 := by
    have high : n < 2 ^ (n.log2 + 1) := Nat.lt_log2_self
    rw [rounded_exact exact]
    calc n * 2 ^ (52 - n.log2) < 2 ^ (n.log2 + 1) * 2 ^ (52 - n.log2) :=
          Nat.mul_lt_mul_of_pos_right high (by positivity)
      _ = 2 ^ 53 := by rw [← pow_add]; congr 1; omega
  rw [rounded_exact exact] at *
  simp only [Nat.pow_eq, Nat.max_def]
  constructor
  · rw [if_neg (by omega)]
    omega
  · split <;> omega


theorem negative_ofRatio {n : Nat} (few : n.log2 < 1000) (negative : Bool) :
    (ofRatio negative n 1).negative = negative := by
  have small := magnitudeOf_lt few
  rw [ofRatio_one few, negative_ofMagnitude (by omega)]

theorem isFinite_ofRatio {n : Nat} (few : n.log2 < 1000) (negative : Bool) :
    (ofRatio negative n 1).isFinite := by
  rw [ofRatio_one few]
  exact isFinite_ofMagnitude (magnitudeOf_lt few) negative

/-- The number nearest to an integer of 64 bits is finite. -/
theorem isFinite_ofInt {i : Int} (short : i.natAbs ≤ 2 ^ 64) : (ofInt i).isFinite := by
  have few : i.natAbs.log2 ≤ (2 ^ 64).log2 := log2_mono short
  exact isFinite_ofRatio (few.trans_lt (by decide)) _

/-! ### The integer that it stands for -/

/-- A natural number below `2 ^ 53` is held exactly. -/
theorem toInt?_ofRatio {n : Nat} (exact : n < 2 ^ 53) (negative : Bool) :
    (ofRatio negative n 1).toInt? = some (if negative then -(n : Int) else n) := by
  by_cases none : n = 0
  · subst none
    have whole : (ofRatio negative 0 1).significand = 0 := by cases negative <;> decide
    rw [toInt?, if_pos (isFinite_ofRatio (by decide) negative), whole]
    simp only [Nat.zero_mod, if_true, zero_mul, Nat.zero_div, Nat.cast_zero, neg_zero, ite_self]
  · have few : n.log2 ≤ 52 := Nat.le_of_lt_succ ((Nat.log2_lt none).mpr exact)
    obtain ⟨whole, power⟩ := significand_ofRatio none few negative
    have up : ((n.log2 : Int) - 52).toNat = 0 := by omega
    have down : (-((n.log2 : Int) - 52)).toNat = 52 - n.log2 := by omega
    rw [toInt?, if_pos (isFinite_ofRatio (by omega) negative), whole, power, up, down,
      negative_ofRatio (by omega)]
    simp only [Nat.pow_eq, pow_zero, mul_one, Nat.mul_mod_left, if_true]
    rw [Nat.mul_div_cancel _ (by positivity)]

theorem truncate_ofNat {n : Nat} (exact : n < 2 ^ 53) : (ofNat n).truncate = n := by
  by_cases none : n = 0
  · subst none
    have whole : (ofNat 0).significand = 0 := by decide
    simp only [truncate, whole, zero_mul, Nat.zero_div, Nat.cast_zero, neg_zero, ite_self]
  · have few : n.log2 ≤ 52 := Nat.le_of_lt_succ ((Nat.log2_lt none).mpr exact)
    obtain ⟨whole, power⟩ := significand_ofRatio none few false
    have up : ((n.log2 : Int) - 52).toNat = 0 := by omega
    have down : (-((n.log2 : Int) - 52)).toNat = 52 - n.log2 := by omega
    rw [ofNat, truncate, whole, power, up, down, negative_ofRatio (by omega)]
    simp only [Nat.pow_eq, pow_zero, mul_one]
    rw [Nat.mul_div_cancel _ (by positivity)]
    rfl

/-- Beyond, a number is at least as great. -/
theorem toInt?_ofRatio_large {n : Nat} (large : 2 ^ 53 ≤ n) (few : n.log2 < 1000) {negative : Bool}
    {i : Int} (whole : (ofRatio negative n 1).toInt? = some i) : 2 ^ 53 ≤ i.natAbs := by
  have some : n ≠ 0 := by omega
  have wide : 53 ≤ n.log2 := (Nat.le_log2 some).mpr large
  have small := magnitudeOf_lt few
  have bounds := rounded_bounds some
  have field : 1076 ≤ magnitudeOf n / 2 ^ 52 := by
    rw [magnitudeOf, if_neg some]
    omega
  rw [ofRatio_one few] at whole
  have power : ∃ p : Nat, (ofMagnitude negative (magnitudeOf n)).scale = (p : Int) + 1 := by
    refine ⟨magnitudeOf n / 2 ^ 52 - 1076, ?_⟩
    rw [scale, exponentField_ofMagnitude small]
    simp only [Nat.max_def]
    split <;> omega
  have significant : 2 ^ 52 ≤ (ofMagnitude negative (magnitudeOf n)).significand := by
    rw [significand, exponentField_ofMagnitude small, if_neg (by omega)]
    exact Nat.le_add_right _ _
  obtain ⟨p, power⟩ := power
  have up : ((p : Int) + 1).toNat = p + 1 := by omega
  have down : (-((p : Int) + 1)).toNat = 0 := by omega
  rw [toInt?, if_pos (isFinite_ofMagnitude small negative), power, up, down] at whole
  simp only [Nat.pow_eq, pow_zero, Nat.mod_one, if_true, Nat.div_one, Option.some.injEq] at whole
  have size : i.natAbs = (ofMagnitude negative (magnitudeOf n)).significand * 2 ^ (p + 1) := by
    rw [← whole]
    split
    · rw [Int.natAbs_neg, Int.natAbs_natCast]
    · rw [Int.natAbs_natCast]
  rw [size]
  calc 2 ^ 53 = 2 ^ 52 * 2 ^ 1 := by norm_num
    _ ≤ (ofMagnitude negative (magnitudeOf n)).significand * 2 ^ (p + 1) :=
      Nat.mul_le_mul significant (Nat.pow_le_pow_right (by norm_num) (by omega))

theorem toInt?_ofInt {i : Int} (exact : i.natAbs < 2 ^ 53) : (ofInt i).toInt? = some i := by
  rw [ofInt, toInt?_ofRatio exact]
  simp only [decide_eq_true_eq]
  split <;> congr 1 <;> omega

theorem isZero_ofMagnitude {m : Nat} (small : m < 2047 * 2 ^ 52) (negative : Bool) :
    (ofMagnitude negative m).isZero = (m == 0) := by
  rw [isZero, exponentField_ofMagnitude small, fractionField_ofMagnitude small]
  rw [Bool.eq_iff_iff, Bool.and_eq_true, beq_iff_eq, beq_iff_eq, beq_iff_eq]
  omega

/-- An integer is never turned into a negative zero. -/
theorem ofInt_not_negativeZero {i : Int} (few : i.natAbs.log2 < 1000) :
    (ofInt i).isNegativeZero = false := by
  rw [isNegativeZero, ofInt, negative_ofRatio few]
  by_cases below : i < 0
  · have some : i.natAbs ≠ 0 := by omega
    have bounds := rounded_bounds some
    rw [ofRatio_one few, isZero_ofMagnitude (magnitudeOf_lt few), magnitudeOf, if_neg some]
    simp
  · simp [below]

end ScriptHost.Double

namespace ScriptHost.Datum
open Double

/-- An integer comes back as it is where every integer is a number, and else as a number. -/
theorem ofDouble_ofInt {i : Int} (few : i.natAbs.log2 < 1000) :
    ofDouble (ofInt i) =
      if i.natAbs ≤ maxSafeInteger then .int (Int64.ofInt i) else .float (ofInt i) := by
  have top : maxSafeInteger = 2 ^ 53 - 1 := rfl
  unfold ofDouble
  by_cases safe : i.natAbs ≤ maxSafeInteger
  · rw [toInt?_ofInt (by omega)]
    simp [safe, ofInt_not_negativeZero few]
  · rw [if_neg safe]
    split
    · rename_i j whole
      have large := toInt?_ofRatio_large (by omega) few whole
      rw [if_neg (by omega)]
    · rfl

end ScriptHost.Datum
