import SearchFilter.Proofs.Numeric.Numerals
import SearchFilter.Proofs.Text.Trimming
import SearchFilter.Proofs.Time.Calendar
import SearchFilter.Time.Reading
/-!
# The fields of a point in time

Each field of the internet form is read back from what is written for it, whatever follows in the text. Numbers of fixed width come back if they have no more digits than the field. A fraction comes back although its trailing zeros are not written, because the reader puts them there again.
-/

namespace SearchFilter

namespace Timestamp

open Numeral (decimalValue digitValue fixedDigits? splitDigits)

variable {n width nanosecond : Nat} {text rest : List Char}

/-! ### Numbers of fixed width -/

/-- The text is a number of exactly `width` digits. -/
structure Field (width : Nat) (text : List Char) (n : Nat) : Prop where
  length_eq : text.length = width
  isDigit : ∀ c ∈ text, c.isDigit = true
  value_eq : decimalValue text = n

theorem Field.read (h : Field width text n) (rest : List Char) :
    fixedDigits? width (text ++ rest) = some (n, rest) := by
  have hall : text.all Char.isDigit = true := List.all_eq_true.mpr h.isDigit
  simp [fixedDigits?, List.take_left' h.length_eq, List.drop_left' h.length_eq, h.length_eq, hall,
    Numeral.ofDigitChars_eq_decimalValue, h.value_eq]

@[simp] theorem length_padded (width n : Nat) : (padded width n).length = width := by
  induction width generalizing n with
  | zero => rfl
  | succ width ih => rw [padded, List.length_append, ih, List.length_singleton]

theorem isDigit_of_mem_padded {c : Char} (h : c ∈ padded width n) : c.isDigit = true := by
  induction width generalizing n with
  | zero => exact absurd h List.not_mem_nil
  | succ width ih =>
    rw [padded, List.mem_append, List.mem_singleton] at h
    rcases h with h | rfl
    · exact ih h
    · rw [Nat.isDigit_digitChar]
      exact decide_eq_true (Nat.mod_lt n (by decide))

theorem decimalValue_padded (width n : Nat) : decimalValue (padded width n) = n % 10 ^ width := by
  induction width generalizing n with
  | zero => rw [pow_zero, Nat.mod_one]; rfl
  | succ width ih =>
    have hlast : digitValue (Nat.digitChar (n % 10)) = n % 10 :=
      Nat.toNat_digitChar_sub_48_of_lt_ten (Nat.mod_lt n (by decide))
    rw [padded, Numeral.decimalValue_append_singleton, ih, hlast, pow_succ', Nat.mod_mul,
      Nat.add_comm]

@[simp] theorem fixedDigits?_padded (h : n < 10 ^ width) (rest : List Char) :
    fixedDigits? width (padded width n ++ rest) = some (n, rest) := by
  have hfield : Field width (padded width n) n :=
    ⟨length_padded width n, fun _ hc => isDigit_of_mem_padded hc, by
      rw [decimalValue_padded, Nat.mod_eq_of_lt h]⟩
  exact hfield.read rest

@[simp] theorem isPrefixOf?_singleton_cons (c : Char) (s : List Char) :
    [c].isPrefixOf? (c :: s) = some s :=
  List.isPrefixOf?_eq_some_iff_append_eq.mpr rfl

/-! ### The fraction -/

/-- The digits that are written, with the zeros that are not, are the nine digits of the nanoseconds. -/
theorem exists_fractionText (hpos : nanosecond ≠ 0) (hlt : nanosecond < 10 ^ 9) :
    ∃ digits zeros, fractionText nanosecond = '.' :: digits ∧ digits ≠ [] ∧
      (∀ c ∈ digits, c.isDigit = true) ∧
      digits ++ List.replicate zeros '0' = padded 9 nanosecond := by
  obtain ⟨back, hpadded, hback⟩ : ∃ back, padded 9 nanosecond =
      (padded 9 nanosecond).rdropWhile (· == '0') ++ back ∧ ∀ c ∈ back, (c == '0') = true :=
    ⟨_, List.rdropWhile_append_rtakeWhile.symm, fun c hc => List.mem_rtakeWhile_imp (p := (· == '0')) hc⟩
  have hzeros : back = List.replicate back.length '0' :=
    List.eq_replicate_of_mem fun c hc => by simpa using hback c hc
  refine ⟨(padded 9 nanosecond).rdropWhile (· == '0'), back.length, ?_, ?_, ?_, ?_⟩
  · rw [fractionText, if_neg hpos]
    rfl
  · intro hnil
    have hvalue := decimalValue_padded 9 nanosecond
    have hlength := length_padded 9 nanosecond
    rw [hpadded, hnil, List.nil_append] at hvalue hlength
    rw [hzeros, hlength, Nat.mod_eq_of_lt hlt] at hvalue
    exact hpos hvalue.symm
  · intro c hc
    have hmem : c ∈ padded 9 nanosecond := by
      rw [hpadded]
      exact List.mem_append_left back hc
    exact isDigit_of_mem_padded hmem
  · rw [← hzeros, ← hpadded]

theorem splitDigits_append {digits : List Char} (hdigits : ∀ c ∈ digits, c.isDigit = true)
    (hrest : ∀ c ∈ rest.head?, c.isDigit = false) :
    splitDigits (digits ++ rest) = (digits, rest) := by
  rw [splitDigits, List.takeWhile_append_of_pos hdigits, List.dropWhile_append_of_pos hdigits]
  cases rest with
  | nil => simp
  | cons c rest => simp [hrest c rfl]

/-- The rest must not go on with digits or a point, which the reader would take for the fraction's own. -/
theorem fraction?_fractionText (hlt : nanosecond < 10 ^ 9)
    (hrest : ∀ c ∈ rest.head?, c.isDigit = false ∧ c ≠ '.') :
    fraction? (fractionText nanosecond ++ rest) = some (nanosecond, rest) := by
  by_cases hzero : nanosecond = 0
  · rw [fractionText, if_pos hzero, List.nil_append, hzero]
    unfold fraction?
    split
    · exact absurd rfl (hrest '.' rfl).2
    · rfl
  · obtain ⟨digits, zeros, htext, hne, hdigits, hpadded⟩ := exists_fractionText hzero hlt
    have hlength := congrArg List.length hpadded
    rw [List.length_append, List.length_replicate, length_padded] at hlength
    have hnine : List.replicate 9 '0' = List.replicate zeros '0' ++ List.replicate (9 - zeros) '0' := by
      rw [List.replicate_append_replicate, Nat.add_sub_cancel' (by omega)]
    have htake : (digits ++ List.replicate 9 '0').take 9 = padded 9 nanosecond := by
      rw [hnine, ← List.append_assoc, hpadded, List.take_left' (length_padded 9 nanosecond)]
    rw [htext, List.cons_append, fraction?,
      splitDigits_append hdigits fun c hc => (hrest c hc).1]
    simp only [List.isEmpty_eq_false_iff.mpr hne, htake, Numeral.ofDigitChars_eq_decimalValue,
      decimalValue_padded, Nat.mod_eq_of_lt hlt, Bool.false_eq_true, if_false]

/-! ### Date, clock and offset -/

theorem monthDay?_dateText {date : Calendar.Date} (h : date.Valid) (rest : List Char) :
    monthDay? date.year ('-' :: (padded 2 date.month ++ '-' :: (padded 2 date.day ++ rest))) =
      some (date, rest) := by
  have hmonth : date.month < 100 := lt_of_le_of_lt h.2.1 (by decide)
  have hday : date.day < 100 :=
    lt_of_le_of_lt (h.2.2.2.trans (Calendar.daysInMonth_le _ _)) (by decide)
  simp [monthDay?, hmonth, hday]

def Clock.ofSeconds (second : Nat) : Clock := ⟨second / 3600, second / 60 % 60, second % 60⟩

theorem Clock.valid_ofSeconds {second : Nat} (h : second < 86400) : (Clock.ofSeconds second).Valid := by
  simp only [Clock.Valid, Clock.ofSeconds]
  omega

theorem Clock.toSeconds_ofSeconds (second : Nat) : (Clock.ofSeconds second).toSeconds = second := by
  simp only [Clock.toSeconds, Clock.ofSeconds]
  omega

theorem clock?_clockText {second : Nat} (h : second < 86400) (rest : List Char) :
    clock? (clockText second ++ rest) = some (Clock.ofSeconds second, rest) := by
  have hhour : second / 3600 < 100 := by omega
  have hminute : second / 60 % 60 < 100 := by omega
  have hsecond : second % 60 < 100 := by omega
  simp [clock?, clockText, Clock.ofSeconds, hhour, hminute, hsecond]

theorem offset?_signed {hour minute : Nat} (hhour : hour < 24) (hminute : minute < 60) (negative : Prop)
    [Decidable negative] :
    offset? ((if negative then '-' else '+') :: (padded 2 hour ++ ':' :: padded 2 minute)) =
      some (if negative then -(3600 * hour + 60 * minute : Int) else 3600 * hour + 60 * minute, []) := by
  have hhour' : hour < 100 := by omega
  have hlast : fixedDigits? 2 (padded 2 minute) = some (minute, []) := by
    have hminute' : minute < 10 ^ 2 := by omega
    simpa using fixedDigits?_padded hminute' []
  by_cases hnegative : negative
  · simp [offset?, hnegative, hlast, hhour, hhour', hminute]
  · simp [offset?, hnegative, hlast, hhour, hhour', hminute]

/-- Offsets of less than an hour keep their sign, although their hours are zero. -/
theorem offset?_offsetText {offset : Int} (hhour : offset.natAbs / 3600 ≤ 23)
    (hsecond : offset.natAbs % 60 = 0) : offset? (offsetText offset) = some (offset, []) := by
  by_cases hzero : offset = 0
  · rw [offsetText, if_pos hzero, hzero]
    rfl
  · rw [offsetText, if_neg hzero, offset?_signed (by omega) (by omega)]
    congr 2
    split_ifs
    · omega
    · omega

end Timestamp

end SearchFilter
