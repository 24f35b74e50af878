import SearchFilter.Proofs.Numeric.Numerals
import SearchFilter.Proofs.Text.Trimming
import SearchFilter.Value.Coercion
/-!
# Texts as integers

A text is taken for an integer exactly if it is a numeral with nothing but blank characters around it and the number of the numeral fits 64 signed bits. The integer is this number, so nothing wraps or saturates, and the least integer is read like any other. Reading undoes writing for all integers.
-/

namespace SearchFilter

namespace Value

/-- The text is a numeral between blank characters, and this is its number. -/
def DenotesInteger (s : String) (i : ℤ) : Prop :=
  ∃ front numeral back, s.toList = front ++ numeral ++ back ∧ Numeral.Denotes numeral i ∧
    (∀ c ∈ front, Text.isBlank c = true) ∧ ∀ c ∈ back, Text.isBlank c = true

variable {s : String} {i : ℤ} {n : Int64}

theorem isBlank_of_numeral {numeral : List Char} (h : Numeral.Denotes numeral i) :
    ∀ c ∈ numeral, Text.isBlank c = false := by
  intro c hc
  rcases h.mem hc with rfl | rfl | hdigit
  · decide
  · decide
  · exact Numeral.isBlank_of_isDigit hdigit

theorem denotesInteger_iff : DenotesInteger s i ↔ Numeral.Denotes (Text.trim s).toList i := by
  constructor
  · intro ⟨front, numeral, back, hs, hnumeral, hfront, hback⟩
    rwa [Text.toList_trim hs (isBlank_of_numeral hnumeral) hfront hback]
  · intro h
    obtain ⟨front, back, hs, hfront, hback⟩ := Text.exists_trim s
    exact ⟨front, (Text.trim s).toList, back, hs, h, hfront, hback⟩

theorem trim_integerText (i : ℤ) : Text.trim (Numeral.integerText i) = Numeral.integerText i :=
  Text.trim_eq_self (isBlank_of_numeral (Numeral.denotes_integerText i))

theorem toInteger_string_eq_ok_iff {w : Value} :
    toInteger (string s) = .ok w ↔ ∃ n : Int64, w = integer n ∧ DenotesInteger s n.toInt := by
  rw [toInteger]
  simp only [denotesInteger_iff, ← Numeral.int64?_eq_some_iff]
  cases Numeral.int64? (Text.trim s).toList with
  | none => simp
  | some n => simp [eq_comm]

theorem toInteger_string_eq_error_iff {e : CoercionError} :
    toInteger (string s) = .error e ↔
      e = .notInteger s ∧ ¬ ∃ n : Int64, DenotesInteger s n.toInt := by
  rw [toInteger]
  simp only [denotesInteger_iff, ← Numeral.int64?_eq_some_iff]
  cases Numeral.int64? (Text.trim s).toList with
  | none => simp [eq_comm]
  | some n => simp

theorem exists_toInt_iff : (∃ n : Int64, DenotesInteger s n.toInt) ↔
    ∃ i : ℤ, DenotesInteger s i ∧ -2 ^ 63 ≤ i ∧ i ≤ 2 ^ 63 - 1 := by
  constructor
  · intro ⟨n, h⟩
    exact ⟨n.toInt, h, n.le_toInt, Int.le_sub_one_of_lt n.toInt_lt⟩
  · intro ⟨i, h, hlow, hhigh⟩
    have hvalue : (Int64.ofInt i).toInt = i := Int64.toInt_ofInt_of_le hlow (by omega)
    exact ⟨Int64.ofInt i, by rwa [hvalue]⟩

/-- Which texts are integers, and which integers they are. All other texts are refused as they stand. The text of an integer is read as this integer. -/
theorem coerceScalar_integer_text (parseTemporal : String → Option Timestamp) :
    (∀ s n, coerceScalar parseTemporal .integer (string s) = .ok (integer n) ↔
      ∃ i : ℤ, DenotesInteger s i ∧ -2 ^ 63 ≤ i ∧ i ≤ 2 ^ 63 - 1 ∧ n.toInt = i) ∧
    (∀ s e, coerceScalar parseTemporal .integer (string s) = .error e ↔
      e = .notInteger s ∧ ¬ ∃ i : ℤ, DenotesInteger s i ∧ -2 ^ 63 ≤ i ∧ i ≤ 2 ^ 63 - 1) ∧
    ∀ i : Int64, ∃ s, coerceScalar parseTemporal .text (integer i) = .ok (string s) ∧
      coerceScalar parseTemporal .integer (string s) = .ok (integer i) := by
  refine ⟨fun s n => ?_, fun s e => ?_, fun i => ?_⟩
  · rw [coerceScalar, toInteger_string_eq_ok_iff]
    constructor
    · intro ⟨m, hm, h⟩
      cases hm
      exact ⟨n.toInt, h, n.le_toInt, Int.le_sub_one_of_lt n.toInt_lt, rfl⟩
    · intro ⟨i, h, _, _, hi⟩
      exact ⟨n, rfl, hi ▸ h⟩
  · rw [coerceScalar, toInteger_string_eq_error_iff, exists_toInt_iff]
  · refine ⟨integerText i, rfl, ?_⟩
    rw [coerceScalar, toInteger_string_eq_ok_iff]
    refine ⟨i, rfl, denotesInteger_iff.mpr ?_⟩
    rw [integerText, trim_integerText]
    exact Numeral.denotes_integerText i.toInt

/-- The least integer, with more digits than it needs and blank characters around it. -/
example : Numeral.int64? (Text.trim "\t-0009223372036854775808 ").toList = some Int64.minValue := by
  decide +kernel

end Value

end SearchFilter
