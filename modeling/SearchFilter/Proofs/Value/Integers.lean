import SearchFilter.Proofs.Numeric.Exact
import SearchFilter.Value.Coercion
/-!
# Floating point numbers as integers

A floating point number is taken for an integer exactly if it stands for a whole number from -2 ^ 63 to 2 ^ 63, and the integer is this number. The upper bound is the exception: it does not fit 64 signed bits, is taken all the same, and becomes the greatest integer, which is smaller by one.
-/

namespace SearchFilter

namespace Value

variable {x : Binary64} {i : ℤ} {n : Int64}

/-- The integer is the whole number, or the greatest integer in place of the number behind it. -/
def StandsFor (n : Int64) (i : ℤ) : Prop := n.toInt = i ∨ i = 2 ^ 63 ∧ n = Int64.maxValue

theorem maxInt64_eq : Numeral.maxInt64 = 2 ^ 63 - 1 := rfl

theorem minInt64_eq : Numeral.minInt64 = -2 ^ 63 := rfl

theorem ofInt_min_eq_iff (hlow : -2 ^ 63 ≤ i) (hhigh : i ≤ 2 ^ 63) :
    Int64.ofInt (min i Numeral.maxInt64) = n ↔ StandsFor n i := by
  have hn := n.toInt_lt
  have hvalue : (Int64.ofInt (min i Numeral.maxInt64)).toInt = min i Numeral.maxInt64 := by
    rw [maxInt64_eq]
    exact Int64.toInt_ofInt_of_le (by omega) (by omega)
  rw [StandsFor, ← Int64.toInt_inj, hvalue, ← Int64.toInt_inj, Int64.toInt_maxValue, maxInt64_eq]
  omega

theorem integerOfFloat?_eq_some_iff : integerOfFloat? x = some n ↔
    ∃ i, x.integer? = some i ∧ (-2 ^ 63 ≤ i ∧ i ≤ 2 ^ 63) ∧ StandsFor n i := by
  rw [integerOfFloat?, minInt64_eq, show Numeral.maxInt64 + 1 = 2 ^ 63 from rfl]
  cases x.integer? with
  | none => simp only [reduceCtorEq, false_and, exists_false]
  | some i =>
    simp only [Option.some.injEq, exists_eq_left']
    split
    · rename_i hfits
      rw [Option.some.injEq, ofInt_min_eq_iff hfits.1 hfits.2, and_iff_right hfits]
    · rename_i hfits
      simp only [reduceCtorEq, hfits, false_and]

theorem toInteger_float_eq_ok_iff {w : Value} :
    toInteger (float x) = .ok w ↔ ∃ n, integerOfFloat? x = some n ∧ w = integer n := by
  rw [toInteger]
  cases integerOfFloat? x with
  | none => simp only [mismatch, reduceCtorEq, false_and, exists_false]
  | some n => simp only [Except.ok.injEq, Option.some.injEq, exists_eq_left', eq_comm]

theorem exists_standsFor (hlow : -2 ^ 63 ≤ i) (hhigh : i ≤ 2 ^ 63) : ∃ n, StandsFor n i :=
  ⟨_, (ofInt_min_eq_iff hlow hhigh).mp rfl⟩

/-- Which floating point numbers are integers, and which integers they are. Whatever else is refused for its form. -/
theorem coerceScalar_integer_float (parseTemporal : String → Option Timestamp) (x : Binary64) :
    (∀ w, coerceScalar parseTemporal .integer (float x) = .ok w ↔
      ∃ n : Int64, w = integer n ∧ x.isFinite = true ∧
        (x.toRat = n.toInt ∨ x.toRat = 2 ^ 63 ∧ n = Int64.maxValue)) ∧
    ((∃ w, coerceScalar parseTemporal .integer (float x) = .ok w) ↔
      x.isFinite = true ∧ ∃ i : ℤ, x.toRat = i ∧ -2 ^ 63 ≤ i ∧ i ≤ 2 ^ 63) ∧
    ∀ e, coerceScalar parseTemporal .integer (float x) = .error e →
      e = .mismatch .integer "float" := by
  have hok : ∀ w, coerceScalar parseTemporal .integer (float x) = .ok w ↔ ∃ n, w = integer n ∧
      ∃ i : ℤ, (x.isFinite = true ∧ x.toRat = i) ∧ (-2 ^ 63 ≤ i ∧ i ≤ 2 ^ 63) ∧ StandsFor n i := by
    intro w
    simp only [coerceScalar, toInteger_float_eq_ok_iff, integerOfFloat?_eq_some_iff,
      Binary64.integer?_eq_some_iff, and_comm]
  refine ⟨fun w => ?_, ?_, fun e he => ?_⟩
  · rw [hok]
    refine exists_congr fun n => and_congr_right' ?_
    constructor
    · rintro ⟨i, ⟨hfinite, hvalue⟩, _, hsame | ⟨rfl, hmax⟩⟩
      · exact ⟨hfinite, .inl (by rw [hvalue, hsame])⟩
      · exact ⟨hfinite, .inr ⟨by rw [hvalue]; norm_num, hmax⟩⟩
    · rintro ⟨hfinite, hvalue | ⟨hvalue, hmax⟩⟩
      · exact ⟨n.toInt, ⟨hfinite, hvalue⟩, ⟨n.le_toInt, n.toInt_lt.le⟩, .inl rfl⟩
      · exact ⟨2 ^ 63, ⟨hfinite, by rw [hvalue]; norm_num⟩, by norm_num, .inr ⟨rfl, hmax⟩⟩
  · simp only [hok]
    constructor
    · rintro ⟨w, n, _, i, ⟨hfinite, hvalue⟩, hfits, _⟩
      exact ⟨hfinite, i, hvalue, hfits⟩
    · rintro ⟨hfinite, i, hvalue, hfits⟩
      obtain ⟨n, hn⟩ := exists_standsFor hfits.1 hfits.2
      exact ⟨integer n, n, rfl, i, ⟨hfinite, hvalue⟩, hfits, hn⟩
  · rw [coerceScalar, toInteger] at he
    split at he
    · cases he
    · cases he
      rfl

/-- The number 2 ^ 63 becomes the integer 2 ^ 63 - 1. -/
theorem not_forall_toRat_eq :
    ¬ ∀ (parseTemporal : String → Option Timestamp) (x : Binary64) (n : Int64),
      coerceScalar parseTemporal .integer (float x) = .ok (integer n) →
      x.isFinite = true ∧ x.toRat = n.toInt := by
  intro h
  have hmax : integerOfFloat? ⟨0x43E0000000000000⟩ = some Int64.maxValue := by decide +kernel
  have hsame := (h (fun _ => none) ⟨0x43E0000000000000⟩ Int64.maxValue
    (toInteger_float_eq_ok_iff.mpr ⟨_, hmax, rfl⟩)).2
  rw [Binary64.toRat_eq_int_iff] at hsame
  revert hsame
  decide +kernel

end Value

end SearchFilter
