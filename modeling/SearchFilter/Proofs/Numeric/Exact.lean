import Mathlib.Algebra.Order.Field.Rat
import Mathlib.Algebra.Order.Group.Unbundled.Int
import Mathlib.Tactic.FieldSimp
import Mathlib.Tactic.Ring
import SearchFilter.Numeric.Binary64
/-!
# The numbers that bits stand for

`Binary64.toRat` is the reading of the format: a sign, a fraction with or without a one in front, and a power of two. The library computes with a quotient of two naturals instead. Both are the same number, so what the library decides about the quotient is decided about the number: `Binary64.integer?` answers exactly for the whole numbers, and with their value.
-/

namespace SearchFilter

namespace Binary64

/-- The number that the bits of a finite number stand for. -/
def toRat (x : Binary64) : ℚ :=
  let sign : ℚ := if x.isNegative then -1 else 1
  let fraction : ℚ := x.fractionField / 2 ^ 52
  if x.exponentField = 0 then sign * fraction * 2 ^ (-1022 : ℤ)
  else sign * (1 + fraction) * 2 ^ ((x.exponentField : ℤ) - 1023)

variable {x : Binary64} {i : ℤ}

/-! ### The quotient -/

theorem denominator_pos (x : Binary64) : 0 < x.denominator := Nat.two_pow_pos _

theorem two_zpow_eq (e : ℤ) : (2 : ℚ) ^ e = 2 ^ e.toNat / 2 ^ (-e).toNat := by
  obtain ⟨n, rfl | rfl⟩ := e.eq_nat_or_neg
  · simp
  · simp

theorem numerator_div_denominator (x : Binary64) :
    (x.numerator : ℚ) / x.denominator = x.significand * 2 ^ x.scale := by
  have hnumerator : (x.numerator : ℚ) = x.significand * 2 ^ x.scale.toNat := by
    simp [numerator]
  have hdenominator : (x.denominator : ℚ) = 2 ^ (-x.scale).toNat := by
    simp [denominator]
  rw [hnumerator, hdenominator, two_zpow_eq, mul_div_assoc]

theorem toRat_eq (x : Binary64) :
    x.toRat = (if x.isNegative then -1 else 1) * ((x.numerator : ℚ) / x.denominator) := by
  rw [numerator_div_denominator, toRat, significand, scale]
  by_cases hfield : x.exponentField = 0
  · have hstep : (2 : ℚ) ^ (-1022 : ℤ) = 2 ^ 52 * 2 ^ (-1074 : ℤ) := by
      rw [← zpow_natCast, ← zpow_add₀ (by norm_num)]
      rfl
    simp only [hfield, if_true, hstep]
    field_simp
  · have hstep : (2 : ℚ) ^ ((x.exponentField : ℤ) - 1023) =
        2 ^ 52 * 2 ^ ((x.exponentField : ℤ) - 1075) := by
      rw [← zpow_natCast, ← zpow_add₀ (by norm_num)]
      congr 1
      omega
    have hone : ((Nat.pow 2 52 : Nat) : ℚ) = 2 ^ 52 := by norm_num
    simp only [hfield, if_false, hstep, Nat.cast_add, hone]
    field_simp

theorem toRat_eq_int_iff :
    x.toRat = i ↔ (x.numerator : ℤ) = (if x.isNegative then -i else i) * x.denominator := by
  have hden : (x.denominator : ℚ) ≠ 0 := by exact_mod_cast x.denominator_pos.ne'
  rw [toRat_eq]
  cases x.isNegative with
  | false =>
    simp only [Bool.false_eq_true, if_false, one_mul]
    rw [div_eq_iff hden]
    norm_cast
  | true =>
    simp only [if_true, neg_one_mul]
    rw [neg_eq_iff_eq_neg, div_eq_iff hden]
    norm_cast

/-! ### Whole numbers -/

/-- Negating where a number is negative can be undone by negating again. -/
theorem negate_eq_iff (negative : Bool) (a b : ℤ) :
    (if negative then -a else a) = b ↔ a = if negative then -b else b := by
  cases negative with
  | false => simp
  | true =>
    simp only [if_true]
    omega

theorem integer?_eq_some_iff : x.integer? = some i ↔ x.isFinite = true ∧ x.toRat = i := by
  have hden : (x.denominator : ℤ) ≠ 0 := by exact_mod_cast x.denominator_pos.ne'
  rw [toRat_eq_int_iff, integer?]
  constructor
  · intro h
    split at h
    · rename_i hwhole
      simp only [Bool.and_eq_true, beq_iff_eq] at hwhole
      have hmul : (x.numerator : ℤ) = x.numerator / x.denominator * x.denominator := by
        rw [Int.ediv_mul_cancel]
        exact_mod_cast Nat.dvd_of_mod_eq_zero hwhole.2
      have hvalue := (negate_eq_iff _ _ _).mp (Option.some.inj h)
      exact ⟨hwhole.1, hvalue ▸ hmul⟩
    · cases h
  · intro ⟨hfinite, hmul⟩
    have hwhole : x.numerator % x.denominator = 0 := by
      have hmod : (x.numerator : ℤ) % x.denominator = 0 := by rw [hmul, Int.mul_emod_left]
      exact_mod_cast hmod
    have hdiv : (x.numerator : ℤ) / x.denominator = if x.isNegative then -i else i := by
      rw [hmul, Int.mul_ediv_cancel _ hden]
    simp only [hfinite, hwhole, beq_self_eq_true, Bool.and_self, if_true, Option.some.injEq]
    exact (negate_eq_iff _ _ _).mpr hdiv

end Binary64

end SearchFilter
