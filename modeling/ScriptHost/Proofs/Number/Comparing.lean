import ScriptHost.Proofs.Number.Integers

/-! Numbers as the machine compares them. Of two that are neither negative nor infinite, the one with
the smaller bits is no greater; so a natural number is never found to be below a smaller one. -/

namespace ScriptHost.Double

open Float.Model Float.Model.UnpackedFloat

/-! ### The fields of the bits -/

theorem unpackExponent_toNat (b : BitVec 64) :
    (@unpackExponent Format.binary64 b).toNat = b.toNat / 2 ^ 52 % 2 ^ 11 := by
  simp [unpackExponent, Nat.shiftRight_eq_div_pow]

theorem unpackMantissa_toNat (b : BitVec 64) :
    (@unpackMantissa Format.binary64 b).toNat = b.toNat % 2 ^ 52 := by
  simp [unpackMantissa]

theorem unpackSign_toNat (b : BitVec 64) :
    (@unpackSign Format.binary64 b).toNat = b.toNat / 2 ^ 63 := by
  have small : b.toNat < 2 ^ 64 := b.isLt
  simp [unpackSign, Nat.shiftRight_eq_div_pow]
  omega

theorem packComponents_toNat (e : BitVec 11) (m : BitVec 52) :
    (packComponents Format.binary64 .positive e m).toNat = e.toNat * 2 ^ 52 + m.toNat := by
  have he := e.isLt
  have hm := m.isLt
  simp only [packComponents, BitVec.toNat_append, Sign.toBitVec]
  rw [← Nat.shiftLeft_add_eq_or_of_lt hm]
  simp [Nat.shiftLeft_eq]

theorem significand_eq (d : Double) (plus : d.bits.toNat < 2047 * 2 ^ 52) :
    d.significand = if d.bits.toNat < 2 ^ 52 then d.bits.toNat
      else 2 ^ 52 + d.bits.toNat % 2 ^ 52 := by
  unfold significand exponentField fractionField
  simp only [Nat.pow_eq]
  split <;> split <;> omega

theorem scale_eq (d : Double) (plus : d.bits.toNat < 2047 * 2 ^ 52) :
    d.scale = if d.bits.toNat < 2 ^ 52 then -1074 else (d.bits.toNat / 2 ^ 52 : Int) - 1075 := by
  unfold scale exponentField
  simp only [Nat.pow_eq, Nat.max_def]
  split <;> split <;> omega

/-! ### What the machine makes of the bits -/

theorem unpack_plus (d : Double) (plus : d.bits.toNat < 2047 * 2 ^ 52) :
    UnpackedFloat.unpack Format.binary64 d.bits.toBitVec =
      if h : d.significand = 0 then .zero .positive
      else .finite .positive d.significand d.scale (Nat.pos_of_ne_zero h) := by
  have exponent := unpackExponent_toNat d.bits.toBitVec
  have mantissa := unpackMantissa_toNat d.bits.toBitVec
  have sign := unpackSign_toNat d.bits.toBitVec
  rw [UInt64.toNat_toBitVec] at exponent mantissa sign
  have positive : @unpackSign Format.binary64 d.bits.toBitVec = 0#1 := by
    apply BitVec.eq_of_toNat_eq
    rw [sign]
    simp
    omega
  have finite : @unpackExponent Format.binary64 d.bits.toBitVec ≠ -1#11 := by
    intro top
    rw [top] at exponent
    simp at exponent
    omega
  have whole := significand_eq d plus
  have power := scale_eq d plus
  unfold UnpackedFloat.unpack
  simp only [positive, if_neg finite]
  by_cases low : d.bits.toNat < 2 ^ 52
  · have field : @unpackExponent Format.binary64 d.bits.toBitVec = 0#11 := by
      apply BitVec.eq_of_toNat_eq
      rw [exponent]
      simp
      omega
    rw [if_pos low] at whole power
    rw [Nat.mod_eq_of_lt low, ← whole] at mantissa
    rw [if_pos field]
    by_cases none : d.significand = 0
    · have empty : @unpackMantissa Format.binary64 d.bits.toBitVec = 0#52 :=
        BitVec.eq_of_toNat_eq (mantissa.trans none)
      rw [dif_pos none, dif_pos empty]
      rfl
    · have some : @unpackMantissa Format.binary64 d.bits.toBitVec ≠ 0#52 := by
        intro empty
        rw [empty] at mantissa
        exact none mantissa.symm
      rw [dif_neg none, dif_neg some]
      simp only [UnpackedFloat.finite.injEq]
      refine ⟨rfl, mantissa, ?_⟩
      rw [field, power]
      rfl
  · have field : @unpackExponent Format.binary64 d.bits.toBitVec ≠ 0#11 := by
      intro none
      rw [none] at exponent
      simp at exponent
      omega
    rw [if_neg low] at whole power
    rw [if_neg field, dif_neg (by omega)]
    simp only [UnpackedFloat.finite.injEq]
    refine ⟨rfl, ?_, ?_⟩
    · rw [BitVec.toNat_append, mantissa, whole, ← Nat.shiftLeft_add_eq_or_of_lt (by omega)]
      rfl
    · rw [exponent, power]
      simp [Format.exponentBias]
      omega

/-- A number keeps its bits when the machine takes it over. -/
theorem pack_unpack (d : Double) (plus : d.bits.toNat < 2047 * 2 ^ 52) :
    UnpackedFloat.pack Format.binary64 (UnpackedFloat.unpack Format.binary64 d.bits.toBitVec) =
      d.bits.toBitVec := by
  have whole := significand_eq d plus
  have power := scale_eq d plus
  rw [unpack_plus d plus]
  apply BitVec.eq_of_toNat_eq
  show _ = d.bits.toNat
  by_cases none : d.significand = 0
  · rw [dif_pos none]
    refine (packComponents_toNat 0 0).trans ?_
    simp
    split at whole <;> omega
  · rw [dif_neg none]
    unfold UnpackedFloat.pack
    have biased : (d.scale + Format.binary64.exponentBias +
        Format.binary64.mantissaBitsWithoutImplicit).toNat =
          if d.bits.toNat < 2 ^ 52 then 1 else d.bits.toNat / 2 ^ 52 := by
      simp only [Format.exponentBias, power]
      split <;> omega
    simp only [biased]
    have few : ¬ 2 ^ Format.binary64.exponentBits ≤
        (if d.bits.toNat < 2 ^ 52 then 1 else d.bits.toNat / 2 ^ 52) + 1 := by
      simp only
      split <;> omega
    rw [if_neg few]
    by_cases low : d.bits.toNat < 2 ^ 52
    · rw [if_pos low] at whole
      have short : ¬ d.significand.log2 + 1 = Format.binary64.mantissaBits := by
        have bound : d.significand.log2 < 52 := (Nat.log2_lt none).mpr (by omega)
        simp only [Format.mantissaBits]
        omega
      rw [if_neg short, packComponents_toNat]
      simp
      omega
    · rw [if_neg low] at whole
      have long : d.significand.log2 + 1 = Format.binary64.mantissaBits := by
        have exact : d.significand.log2 = 52 :=
          (Nat.log2_eq_iff none).mpr ⟨by omega, by omega⟩
        simp only [Format.mantissaBits]
        omega
      rw [if_pos long, if_neg low, packComponents_toNat]
      simp
      omega

theorem unpack_ofBits (d : Double) (plus : d.bits.toNat < 2047 * 2 ^ 52) :
    (Float.Model.ofBits d.bits).unpack =
      if h : d.significand = 0 then .zero .positive
      else .finite .positive d.significand d.scale (Nat.pos_of_ne_zero h) := by
  rw [← unpack_plus d plus]
  show UnpackedFloat.unpack Format.binary64 (UnpackedFloat.pack Format.binary64 _) = _
  rw [pack_unpack d plus]

/-! ### Comparing -/

/-- Of two numbers that are neither negative nor infinite, that with the smaller bits is no
greater. -/
theorem not_lt_of_bits_le {a b : Double} (finite : a.bits.toNat < 2047 * 2 ^ 52)
    (le : b.bits.toNat ≤ a.bits.toNat) : ¬ a.toFloat < b.toFloat := by
  have lower : b.bits.toNat < 2047 * 2 ^ 52 := by omega
  have wholeA := significand_eq a finite
  have powerA := scale_eq a finite
  have wholeB := significand_eq b lower
  have powerB := scale_eq b lower
  have compared : (Float.Model.ofBits a.bits).lt (Float.Model.ofBits b.bits) = false := by
    unfold Float.Model.lt UnpackedFloat.lt
    rw [unpack_ofBits a finite, unpack_ofBits b lower]
    by_cases noneB : b.significand = 0
    · by_cases noneA : a.significand = 0 <;> simp [noneA, noneB, UnpackedFloat.compare]
    · have someA : a.significand ≠ 0 := by split at wholeA <;> split at wholeB <;> omega
      -- The scale decides first, and the significand where the scales agree.
      have scales : b.scale ≤ a.scale := by split_ifs at powerA powerB <;> omega
      have significands (same : a.scale = b.scale) : b.significand ≤ a.significand := by
        split_ifs at wholeA powerA wholeB powerB <;> omega
      rw [dif_neg someA, dif_neg noneB]
      simp only [UnpackedFloat.compare]
      rcases scales.lt_or_eq with higher | same
      · simp [compare_gt_iff_gt.mpr higher]
      · rw [same, compare_eq_iff_eq.mpr rfl]
        rcases (significands same.symm).lt_or_eq with above | equal
        · simp [compare_gt_iff_gt.mpr above]
        · simp [equal]
  intro less
  have told : (Float.Model.ofBits a.bits).lt (Float.Model.ofBits b.bits) = true :=
    of_decide_eq_true less
  rw [compared] at told
  cases told

/-- A natural number that is held exactly is not above a greater one. -/
theorem not_lt_ofNat {m n : Nat} (exact : m.log2 ≤ 52) (few : n.log2 < 1000) (le : m ≤ n) :
    ¬ (ofNat n).toFloat < (ofNat m).toFloat := by
  refine not_lt_of_bits_le ?_ ?_
  · rw [bits_ofNat few]
    exact magnitudeOf_lt few
  · rw [bits_ofNat (by omega), bits_ofNat few]
    exact magnitudeOf_mono exact le

end ScriptHost.Double
