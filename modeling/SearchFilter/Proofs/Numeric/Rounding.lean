import Mathlib.Algebra.Order.Field.Power
import Mathlib.Data.Nat.Log
import SearchFilter.Proofs.Numeric.Exact
/-!
# Rounding and powers of two

Rounding does not cross a power of two: a quotient that is at most 2 ^ k is rounded to at most 2 ^ k, and one that is at least 1 to at least 1. So numbers that are at most 2 ^ k stay so when they are divided, whatever the divisor and however often, as long as no divisor is less than 1.
-/

namespace SearchFilter

namespace Binary64

variable {num den k : ℕ} {x y : Binary64}

/-! ### The nearest whole number -/

theorem roundHalfEven_le {n : ℕ} (h : num ≤ den * n) (hden : 0 < den) : roundHalfEven num den ≤ n := by
  have hquotient : num / den ≤ n := Nat.div_le_of_le_mul h
  have hsplit := Nat.div_add_mod num den
  rw [roundHalfEven]
  rcases hquotient.lt_or_eq with hless | heq
  · split_ifs
    · omega
    · omega
    · have hmod := Nat.mod_lt (num / den) (show 0 < 2 by decide)
      omega
  · -- nothing is left to round up
    have hrest : num % den = 0 := by
      rw [heq] at hsplit
      omega
    rw [if_pos (by omega)]
    exact heq.le

theorem le_roundHalfEven {n : ℕ} (h : den * n ≤ num) (hden : 0 < den) : n ≤ roundHalfEven num den := by
  have hquotient : n ≤ num / den := (Nat.le_div_iff_mul_le hden).mpr (by rwa [Nat.mul_comm])
  rw [roundHalfEven]
  split_ifs
  · exact hquotient
  · exact hquotient.trans (Nat.le_succ _)
  · exact hquotient.trans (Nat.le_add_right _ _)

/-! ### The leading digit -/

theorem scaled_le_iff (hden : 0 < den) (e : ℤ) (n : ℕ) :
    num * Nat.pow 2 (-e).toNat ≤ den * Nat.pow 2 e.toNat * n ↔ (num : ℚ) / den ≤ 2 ^ e * n := by
  have hden' : (0 : ℚ) < den := Nat.cast_pos.mpr hden
  have hpow : ∀ n, ((Nat.pow 2 n : ℕ) : ℚ) = 2 ^ n := fun n => Nat.cast_pow 2 n
  rw [two_zpow_eq, div_mul_eq_mul_div, div_le_div_iff₀ hden' (pow_pos two_pos _), ← hpow, ← hpow]
  norm_cast
  rw [Nat.mul_comm (Nat.pow 2 e.toNat * n) den, Nat.mul_assoc]

theorem le_scaled_iff (hden : 0 < den) (e : ℤ) (n : ℕ) :
    den * Nat.pow 2 e.toNat * n ≤ num * Nat.pow 2 (-e).toNat ↔ 2 ^ e * n ≤ (num : ℚ) / den := by
  have hden' : (0 : ℚ) < den := Nat.cast_pos.mpr hden
  have hpow : ∀ n, ((Nat.pow 2 n : ℕ) : ℚ) = 2 ^ n := fun n => Nat.cast_pow 2 n
  rw [two_zpow_eq, div_mul_eq_mul_div, div_le_div_iff₀ (pow_pos two_pos _) hden', ← hpow, ← hpow]
  norm_cast
  rw [Nat.mul_comm (Nat.pow 2 e.toNat * n) den, Nat.mul_assoc]

/-- The logarithms of numerator and denominator give the exponent up to one. -/
theorem log2_bounds (hnum : num ≠ 0) (hden : 0 < den) :
    (2 : ℚ) ^ ((num.log2 : ℤ) - den.log2 - 1) ≤ num / den ∧
      (num : ℚ) / den < 2 ^ ((num.log2 : ℤ) - den.log2 + 1) := by
  have hden' : (0 : ℚ) < den := Nat.cast_pos.mpr hden
  have hnum_le : (2 : ℚ) ^ num.log2 ≤ num := by exact_mod_cast Nat.log2_self_le hnum
  have hnum_lt : (num : ℚ) < 2 ^ (num.log2 + 1) := by exact_mod_cast Nat.lt_log2_self
  have hden_le : (2 : ℚ) ^ den.log2 ≤ den := by exact_mod_cast Nat.log2_self_le hden.ne'
  have hden_lt : (den : ℚ) < 2 ^ (den.log2 + 1) := by exact_mod_cast Nat.lt_log2_self
  constructor
  · rw [sub_sub, zpow_sub₀ two_ne_zero, zpow_natCast, ← Nat.cast_add_one, zpow_natCast]
    exact div_le_div₀ (Nat.cast_nonneg num) hnum_le hden' hden_lt.le
  · rw [sub_add_eq_add_sub, zpow_sub₀ two_ne_zero, zpow_natCast, ← Nat.cast_add_one, zpow_natCast]
    exact div_lt_div₀ hnum_lt hden_le (pow_pos two_pos _).le (pow_pos two_pos _)

theorem leadingExponent_spec (hnum : num ≠ 0) (hden : 0 < den) :
    (2 : ℚ) ^ leadingExponent num den ≤ num / den ∧
      (num : ℚ) / den < 2 ^ (leadingExponent num den + 1) := by
  obtain ⟨hlow, hhigh⟩ := log2_bounds hnum hden
  have htest : den * Nat.pow 2 ((num.log2 : ℤ) - den.log2).toNat ≤
      num * Nat.pow 2 (-((num.log2 : ℤ) - den.log2)).toNat ↔
        (2 : ℚ) ^ ((num.log2 : ℤ) - den.log2) ≤ num / den := by
    simpa using le_scaled_iff hden ((num.log2 : ℤ) - den.log2) 1
  rw [leadingExponent]
  split_ifs with hguess
  · exact ⟨htest.mp hguess, hhigh⟩
  · rw [sub_add_cancel]
    exact ⟨hlow, not_le.mp (mt htest.mpr hguess)⟩

/-! ### Bounds -/

theorem roundHalfEven_scaled_le {e : ℤ} (step : ℤ) (n : ℕ) (hden : 0 < den) (h : (num : ℚ) / den ≤ 2 ^ e)
    (he : e ≤ step + n) :
    roundHalfEven (num * Nat.pow 2 (-step).toNat) (den * Nat.pow 2 step.toNat) ≤ 2 ^ n := by
  refine roundHalfEven_le ((scaled_le_iff hden step _).mpr (h.trans ?_))
    (Nat.mul_pos hden (Nat.two_pow_pos _))
  rw [Nat.cast_pow, Nat.cast_ofNat, ← zpow_natCast, ← zpow_add₀ two_ne_zero]
  exact zpow_le_zpow_right₀ one_le_two he

theorem le_roundHalfEven_scaled {e : ℤ} (step : ℤ) (n : ℕ) (hden : 0 < den) (h : 2 ^ e ≤ (num : ℚ) / den)
    (he : step + n ≤ e) :
    2 ^ n ≤ roundHalfEven (num * Nat.pow 2 (-step).toNat) (den * Nat.pow 2 step.toNat) := by
  refine le_roundHalfEven ((le_scaled_iff hden step _).mpr (le_trans ?_ h))
    (Nat.mul_pos hden (Nat.two_pow_pos _))
  rw [Nat.cast_pow, Nat.cast_ofNat, ← zpow_natCast, ← zpow_add₀ two_ne_zero]
  exact zpow_le_zpow_right₀ one_le_two he

theorem magnitudeBits_le (hden : 0 < den) (h : num ≤ den * 2 ^ k) :
    magnitudeBits num den ≤ (k + 1023) * 2 ^ 52 := by
  have hquotient : (num : ℚ) / den ≤ 2 ^ (k : ℤ) := by
    rw [div_le_iff₀ (Nat.cast_pos.mpr hden), zpow_natCast, mul_comm]
    exact_mod_cast h
  rw [magnitudeBits]
  split_ifs with hnum
  · exact Nat.zero_le _
  refine (Nat.min_le_left _ _).trans ?_
  change (_ : ℤ).toNat * 2 ^ 52 + _ ≤ _
  obtain ⟨hlow, hhigh⟩ := leadingExponent_spec hnum hden
  have hleading := (zpow_le_zpow_iff_right₀ one_lt_two).mp (hlow.trans hquotient)
  rcases hleading.lt_or_eq with hless | heq
  · -- the significand may round up to 2 ^ 53, which is one more step of the exponent
    have hrounded := roundHalfEven_scaled_le
      (max (leadingExponent num den - 52) (-1074)) 53 hden hhigh.le (by omega)
    omega
  · have hrounded := roundHalfEven_scaled_le
      (max (leadingExponent num den - 52) (-1074)) 52 hden hquotient (by omega)
    omega

theorem le_magnitudeBits (hden : 0 < den) (h : den ≤ num) : 1023 * 2 ^ 52 ≤ magnitudeBits num den := by
  have hnum : num ≠ 0 := by omega
  have hquotient : (2 : ℚ) ^ (0 : ℤ) ≤ num / den := by
    rw [le_div_iff₀ (Nat.cast_pos.mpr hden), zpow_zero, one_mul]
    exact_mod_cast h
  obtain ⟨hlow, hhigh⟩ := leadingExponent_spec hnum hden
  have hleading := (zpow_lt_zpow_iff_right₀ one_lt_two).mp (hquotient.trans_lt hhigh)
  have hrounded := le_roundHalfEven_scaled (max (leadingExponent num den - 52) (-1074)) 52
    hden hlow (by omega)
  rw [magnitudeBits, if_neg hnum]
  change _ ≤ min ((_ : ℤ).toNat * 2 ^ 52 + _) (2047 * 2 ^ 52)
  omega

/-! ### Magnitudes -/

/-- The bits without the sign, which order the numbers by their magnitude. -/
def magnitude (x : Binary64) : ℕ := x.bits.toNat % 2 ^ 63

def AtMost (k : ℕ) (x : Binary64) : Prop := x.magnitude ≤ (k + 1023) * 2 ^ 52

theorem exponentField_eq (x : Binary64) : x.exponentField = x.magnitude / 2 ^ 52 := by
  change x.bits.toNat / 2 ^ 52 % 2 ^ 11 = x.bits.toNat % 2 ^ 63 / 2 ^ 52
  omega

theorem fractionField_eq (x : Binary64) : x.fractionField = x.magnitude % 2 ^ 52 := by
  change x.bits.toNat % 2 ^ 52 = x.bits.toNat % 2 ^ 63 % 2 ^ 52
  omega

theorem magnitude_ofMagnitudeBits {m : ℕ} (negative : Bool) (h : m < 2 ^ 63) :
    (ofMagnitudeBits negative m).magnitude = m := by
  change ((if negative then 2 ^ 63 else 0) + m) % 2 ^ 64 % 2 ^ 63 = m
  split_ifs
  · omega
  · omega

theorem magnitudeBits_lt (num den : ℕ) : magnitudeBits num den < 2 ^ 63 := by
  rw [magnitudeBits]
  split_ifs
  · exact Nat.two_pow_pos 63
  · exact lt_of_le_of_lt (Nat.min_le_right _ _) (by decide)

theorem magnitude_nearest (negative : Bool) (num den : ℕ) :
    (nearest negative num den).magnitude = magnitudeBits num den :=
  magnitude_ofMagnitudeBits negative (magnitudeBits_lt num den)

theorem magnitude_neg (x : Binary64) : x.neg.magnitude = x.magnitude :=
  magnitude_ofMagnitudeBits _ (Nat.mod_lt _ (Nat.two_pow_pos 63))

theorem isFinite_neg (x : Binary64) : x.neg.isFinite = x.isFinite := by
  rw [isFinite, isFinite, exponentField_eq, exponentField_eq, magnitude_neg]

theorem AtMost.isFinite (h : AtMost k x) (hk : k ≤ 1023) : x.isFinite = true := by
  unfold AtMost at h
  rw [Binary64.isFinite, exponentField_eq, decide_eq_true_eq]
  omega

theorem atMost_nearest (negative : Bool) (hden : 0 < den) (h : num ≤ den * 2 ^ k) :
    AtMost k (nearest negative num den) := by
  rw [AtMost, magnitude_nearest]
  exact magnitudeBits_le hden h

theorem isFinite_ofInt (i : Int64) : (ofInt i.toInt).isFinite = true := by
  have hlow := i.le_toInt
  have hhigh := i.toInt_lt
  have hbound : i.toInt.natAbs ≤ 1 * 2 ^ 63 := by omega
  exact (atMost_nearest _ Nat.one_pos hbound).isFinite (by decide)

/-! ### Numerators and denominators -/

theorem numerator_le_of_significand_le (n : ℕ) (hsignificand : x.significand ≤ 2 ^ n)
    (hscale : n + x.scale ≤ k) : x.numerator ≤ x.denominator * 2 ^ k :=
  calc x.significand * 2 ^ x.scale.toNat
    _ ≤ 2 ^ n * 2 ^ x.scale.toNat := Nat.mul_le_mul_right _ hsignificand
    _ = 2 ^ (n + x.scale.toNat) := (Nat.pow_add ..).symm
    _ ≤ 2 ^ ((-x.scale).toNat + k) := Nat.pow_le_pow_right two_pos (by omega)
    _ = 2 ^ (-x.scale).toNat * 2 ^ k := Nat.pow_add ..

theorem AtMost.numerator_le (h : AtMost k x) : x.numerator ≤ x.denominator * 2 ^ k := by
  have hexponent := exponentField_eq x
  have hfraction := fractionField_eq x
  unfold AtMost at h
  by_cases hsmall : x.exponentField = 0
  · have hsignificand : x.significand = x.fractionField := if_pos hsmall
    have hscale : x.scale = -1074 := if_pos hsmall
    exact numerator_le_of_significand_le 52 (by omega) (by omega)
  · have hsignificand : x.significand = 2 ^ 52 + x.fractionField := if_neg hsmall
    have hscale : x.scale = x.exponentField - 1075 := if_neg hsmall
    by_cases hpower : x.exponentField = k + 1023
    · exact numerator_le_of_significand_le 52 (by omega) (by omega)
    · exact numerator_le_of_significand_le 53 (by omega) (by omega)

theorem denominator_le_numerator (h : 1023 * 2 ^ 52 ≤ x.magnitude) : x.denominator ≤ x.numerator := by
  have hexponent := exponentField_eq x
  have hnormal : x.exponentField ≠ 0 := by omega
  have hsignificand : x.significand = 2 ^ 52 + x.fractionField := if_neg hnormal
  have hscale : x.scale = x.exponentField - 1075 := if_neg hnormal
  calc 2 ^ (-x.scale).toNat
    _ ≤ 2 ^ (52 + x.scale.toNat) := Nat.pow_le_pow_right two_pos (by omega)
    _ = 2 ^ 52 * 2 ^ x.scale.toNat := Nat.pow_add ..
    _ ≤ x.significand * 2 ^ x.scale.toNat := Nat.mul_le_mul_right _ (by omega)

theorem AtMost.div (h : AtMost k x) (hy : 1023 * 2 ^ 52 ≤ y.magnitude) : AtMost k (x.div y) := by
  have hone := denominator_le_numerator hy
  have hden : 0 < x.denominator * y.numerator :=
    Nat.mul_pos x.denominator_pos (y.denominator_pos.trans_le hone)
  refine atMost_nearest _ hden ?_
  calc x.numerator * y.denominator
    _ ≤ x.denominator * 2 ^ k * y.numerator := Nat.mul_le_mul h.numerator_le hone
    _ = x.denominator * y.numerator * 2 ^ k := Nat.mul_right_comm ..

end Binary64

end SearchFilter
