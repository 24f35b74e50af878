import Mathlib.Data.List.Induction
import Mathlib.Data.Nat.Digits.Defs
import SearchFilter.Numeric.Numeral
import SearchFilter.Text.Blank
/-!
# Whole numbers and their numerals

A numeral is an optional sign and one or more digits, and `Numeral.Denotes` says which number it stands for. The reader accepts numerals and nothing else, however long they are, and yields the number that they stand for. Where 64 signed bits are asked for it refuses what does not fit. Every whole number is written as a numeral that stands for it.
-/

namespace SearchFilter

namespace Numeral

variable {digits s : List Char} {c : Char}

/-! ### Digits -/

/-- The number that digits stand for in base ten. The last one counts the units. -/
def decimalValue (digits : List Char) : Nat := Nat.ofDigits 10 (digits.reverse.map digitValue)

structure AreDigits (digits : List Char) : Prop where
  ne_nil : digits ≠ []
  isDigit : ∀ c ∈ digits, c.isDigit = true

theorem decimalValue_append_singleton (digits : List Char) (c : Char) :
    decimalValue (digits ++ [c]) = 10 * decimalValue digits + digitValue c := by
  simp [decimalValue, Nat.ofDigits_cons]
  omega

theorem ofDigitChars_eq_decimalValue (digits : List Char) :
    Nat.ofDigitChars 10 digits 0 = decimalValue digits := by
  induction digits using List.reverseRecOn with
  | nil => rfl
  | append_singleton digits c ih =>
    rw [Nat.ofDigitChars_append, ih, decimalValue_append_singleton]
    rfl

theorem isBlank_of_isDigit (h : c.isDigit = true) : Text.isBlank c = false := by
  have hdigits : ∀ n < 58, 48 ≤ n → Text.isBlank (Char.ofNat n) = false := by decide
  have hrange : 48 ≤ c.toNat ∧ c.toNat ≤ 57 := Char.isDigit_iff_toNat.mp h
  have hblank := hdigits c.toNat (by omega) hrange.1
  rwa [Char.ofNat_toNat] at hblank

theorem areDigits_toDigits (n : Nat) : AreDigits (Nat.toDigits 10 n) where
  ne_nil := Nat.toDigits_ne_nil
  isDigit _ hc := Nat.isDigit_of_mem_toDigits (by decide) (by decide) hc

theorem decimalValue_toDigits (n : Nat) : decimalValue (Nat.toDigits 10 n) = n := by
  rw [← ofDigitChars_eq_decimalValue, Nat.ofDigitChars_ten_toDigits]

/-! ### Numerals -/

/-- The text is a numeral, and this is its number. -/
inductive Denotes : List Char → ℤ → Prop
  | unsigned {digits : List Char} (h : AreDigits digits) : Denotes digits (decimalValue digits)
  | plus {digits : List Char} (h : AreDigits digits) : Denotes ('+' :: digits) (decimalValue digits)
  | minus {digits : List Char} (h : AreDigits digits) :
      Denotes ('-' :: digits) (-(decimalValue digits : ℤ))

theorem areDigits_iff : AreDigits digits ↔ (digits.isEmpty || !digits.all Char.isDigit) = false := by
  rw [Bool.or_eq_false_iff, List.isEmpty_eq_false_iff, Bool.not_eq_false', List.all_eq_true]
  exact ⟨fun h => ⟨h.ne_nil, h.isDigit⟩, fun h => ⟨h.1, h.2⟩⟩

theorem AreDigits.splitSign (h : AreDigits digits) : splitSign digits = (false, digits) := by
  unfold Numeral.splitSign
  split
  · exact absurd (h.isDigit '-' List.mem_cons_self) (by decide)
  · exact absurd (h.isDigit '+' List.mem_cons_self) (by decide)
  · rfl

theorem integer?_eq {negative : Bool} (hsign : splitSign s = (negative, digits))
    (h : AreDigits digits) :
    integer? s = some (if negative then -(decimalValue digits : ℤ) else decimalValue digits) := by
  rw [integer?, hsign]
  simp only [areDigits_iff.mp h, ofDigitChars_eq_decimalValue, Bool.false_eq_true, if_false]

theorem integer?_of_denotes {i : ℤ} (h : Denotes s i) : integer? s = some i := by
  cases h with
  | unsigned h => exact integer?_eq h.splitSign h
  | @plus digits h =>
    have hsign : splitSign ('+' :: digits) = (false, digits) := rfl
    exact integer?_eq hsign h
  | @minus digits h =>
    have hsign : splitSign ('-' :: digits) = (true, digits) := rfl
    exact integer?_eq hsign h

theorem denotes_of_integer? {i : ℤ} (h : integer? s = some i) : Denotes s i := by
  rw [integer?] at h
  split at h
  rename_i negative digits hsign
  split at h
  · cases h
  · rename_i hdigits
    have hdigits := areDigits_iff.mpr (Bool.eq_false_iff.mpr hdigits)
    cases h
    rw [ofDigitChars_eq_decimalValue]
    unfold Numeral.splitSign at hsign
    split at hsign
    · cases hsign
      exact .minus hdigits
    · cases hsign
      exact .plus hdigits
    · cases hsign
      exact .unsigned hdigits

theorem integer?_eq_some_iff {i : ℤ} : integer? s = some i ↔ Denotes s i :=
  ⟨denotes_of_integer?, integer?_of_denotes⟩

theorem Denotes.mem {i : ℤ} (h : Denotes s i) (hc : c ∈ s) : c = '+' ∨ c = '-' ∨ c.isDigit = true := by
  cases h with
  | unsigned h => exact .inr (.inr (h.isDigit c hc))
  | plus h => exact (List.mem_cons.mp hc).imp id fun hmem => .inr (h.isDigit c hmem)
  | minus h => exact .inr ((List.mem_cons.mp hc).imp id fun hmem => h.isDigit c hmem)

/-- A numeral is read exactly if its number fits, and then as this number. -/
theorem int64?_eq_some_iff {n : Int64} : int64? s = some n ↔ Denotes s n.toInt := by
  rw [int64?, Option.bind_eq_some_iff]
  constructor
  · rintro ⟨i, hi, hfits⟩
    split at hfits
    · rename_i hrange
      cases hfits
      have hmin : minInt64 = -2 ^ 63 := rfl
      have hmax : maxInt64 = 2 ^ 63 - 1 := rfl
      rw [Int64.toInt_ofInt_of_le (by omega) (by omega)]
      exact integer?_eq_some_iff.mp hi
    · cases hfits
  · intro h
    have hlow : minInt64 ≤ n.toInt := n.le_toInt
    have hhigh : n.toInt ≤ maxInt64 := Int.le_sub_one_of_lt n.toInt_lt
    exact ⟨n.toInt, integer?_eq_some_iff.mpr h, by rw [if_pos ⟨hlow, hhigh⟩, Int64.ofInt_toInt]⟩

/-! ### Writing -/

theorem denotes_integerText (i : ℤ) : Denotes (integerText i).toList i := by
  have hdigits := areDigits_toDigits i.natAbs
  rw [integerText, String.toList_ofList]
  by_cases hi : i < 0
  · have hvalue : -(decimalValue (Nat.toDigits 10 i.natAbs) : ℤ) = i := by
      rw [decimalValue_toDigits]
      omega
    have h := Denotes.minus hdigits
    rw [hvalue] at h
    rwa [if_pos hi]
  · have hvalue : (decimalValue (Nat.toDigits 10 i.natAbs) : ℤ) = i := by
      rw [decimalValue_toDigits]
      omega
    have h := Denotes.unsigned hdigits
    rw [hvalue] at h
    rwa [if_neg hi]

end Numeral

end SearchFilter
