import SearchFilter.Proofs.Time.Fields
/-!
# The forms of points in time

What the three readers accept, said without them: a form is built of the forms of its fields, and stands beside the values of the fields. A reader of a field takes a text of its form from the front, whatever follows, and takes nothing else. So each of the three readers accepts the texts of one form whose fields name an instant, and only these.
-/

namespace SearchFilter

namespace Timestamp

open Numeral (AreDigits decimalValue fixedDigits? splitDigits splitSign)

variable {s text rest : List Char} {n width : Nat} {t : Timestamp}

/-! ### Numbers -/

theorem fixedDigits?_eq_some_iff :
    fixedDigits? width s = some (n, rest) ↔ ∃ text, Field width text n ∧ s = text ++ rest := by
  constructor
  · intro h
    rw [fixedDigits?] at h
    split at h
    · rename_i hdigits
      obtain ⟨hlength, hall⟩ : (s.take width).length = width ∧
          (s.take width).all Char.isDigit = true := by
        simpa only [Bool.and_eq_true, decide_eq_true_eq] using hdigits
      cases h
      exact ⟨s.take width, ⟨hlength, List.all_eq_true.mp hall,
        (Numeral.ofDigitChars_eq_decimalValue _).symm⟩,
        (List.take_append_drop width s).symm⟩
    · cases h
  · rintro ⟨text, hfield, rfl⟩
    exact hfield.read rest

theorem Field.exists_head? (h : Field (width + 1) text n) :
    ∃ c, text.head? = some c ∧ c.isDigit = true := by
  cases text with
  | nil => cases h.length_eq
  | cons c text => exact ⟨c, rfl, h.isDigit c List.mem_cons_self⟩

/-! ### Fields -/

/-- Four digits, with or without a sign. -/
inductive YearForm : List Char → ℤ → Prop
  | unsigned {y : List Char} {n : Nat} (h : Field 4 y n) : YearForm y n
  | plus {y : List Char} {n : Nat} (h : Field 4 y n) : YearForm ('+' :: y) n
  | minus {y : List Char} {n : Nat} (h : Field 4 y n) : YearForm ('-' :: y) (-(n : ℤ))

inductive MonthDayForm : List Char → Nat → Nat → Prop
  | mk {m d : List Char} {month day : Nat} (hmonth : Field 2 m month) (hday : Field 2 d day) :
      MonthDayForm ('-' :: (m ++ '-' :: d)) month day

inductive ClockForm : List Char → Clock → Prop
  | mk {h m s : List Char} {hour minute second : Nat} (hhour : Field 2 h hour)
      (hminute : Field 2 m minute) (hsecond : Field 2 s second) :
      ClockForm (h ++ ':' :: (m ++ ':' :: s)) ⟨hour, minute, second⟩

/-- Nothing, or a point with one or more digits, nine of which count. -/
inductive FractionForm : List Char → Nat → Prop
  | whole : FractionForm [] 0
  | digits {digits : List Char} (h : AreDigits digits) :
      FractionForm ('.' :: digits) (decimalValue ((digits ++ List.replicate 9 '0').take 9))

/-- A letter for offset zero, or a sign with hours and minutes of less than a day. -/
inductive OffsetForm : List Char → ℤ → Prop
  | zero {c : Char} (h : c = 'Z' ∨ c = 'z') : OffsetForm [c] 0
  | ahead {h m : List Char} {hour minute : Nat} (hhour : Field 2 h hour) (hminute : Field 2 m minute)
      (hlt : hour < 24 ∧ minute < 60) :
      OffsetForm ('+' :: (h ++ ':' :: m)) (3600 * hour + 60 * minute)
  | behind {h m : List Char} {hour minute : Nat} (hhour : Field 2 h hour) (hminute : Field 2 m minute)
      (hlt : hour < 24 ∧ minute < 60) :
      OffsetForm ('-' :: (h ++ ':' :: m)) (-(3600 * hour + 60 * minute))

theorem splitSign_cases (s : List Char) :
    (∃ digits, s = '-' :: digits ∧ splitSign s = (true, digits)) ∨
      (∃ digits, s = '+' :: digits ∧ splitSign s = (false, digits)) ∨ splitSign s = (false, s) := by
  unfold splitSign
  split
  · exact .inl ⟨_, rfl, rfl⟩
  · exact .inr (.inl ⟨_, rfl, rfl⟩)
  · exact .inr (.inr rfl)

theorem Field.splitSign_append (h : Field (width + 1) text n) (rest : List Char) :
    splitSign (text ++ rest) = (false, text ++ rest) := by
  obtain ⟨c, hc, hdigit⟩ := h.exists_head?
  obtain ⟨tail, rfl⟩ := List.head?_eq_some_iff.mp hc
  rcases splitSign_cases (c :: tail ++ rest) with ⟨_, hminus, _⟩ | ⟨_, hplus, _⟩ | hsign
  · cases hminus
    exact absurd hdigit (by decide)
  · cases hplus
    exact absurd hdigit (by decide)
  · exact hsign

theorem YearForm.read {year : ℤ} (h : YearForm text year) (rest : List Char) :
    signedYear? (text ++ rest) = some (year, rest) := by
  cases h with
  | unsigned h => simp [signedYear?, h.splitSign_append, h.read]
  | plus h => simp [signedYear?, splitSign, h.read]
  | minus h => simp [signedYear?, splitSign, h.read]

theorem signedYear?_eq_some_iff {year : ℤ} :
    signedYear? s = some (year, rest) ↔ ∃ text, YearForm text year ∧ s = text ++ rest := by
  constructor
  · intro h
    simp only [signedYear?, Option.bind_eq_bind, Option.bind_eq_some_iff, Prod.exists,
      fixedDigits?_eq_some_iff] at h
    obtain ⟨n, _, ⟨y, hfield, hs⟩, hyear⟩ := h
    rcases splitSign_cases s with ⟨digits, rfl, hsign⟩ | ⟨digits, rfl, hsign⟩ | hsign
    · rw [hsign] at hs hyear
      cases hyear
      exact ⟨_, .minus hfield, congrArg _ hs⟩
    · rw [hsign] at hs hyear
      cases hyear
      exact ⟨_, .plus hfield, congrArg _ hs⟩
    · rw [hsign] at hs hyear
      cases hyear
      exact ⟨_, .unsigned hfield, hs⟩
  · rintro ⟨text, hyear, rfl⟩
    exact hyear.read rest

theorem MonthDayForm.read {month day : Nat} (h : MonthDayForm text month day) (year : ℤ)
    (rest : List Char) : monthDay? year (text ++ rest) = some (⟨year, month, day⟩, rest) := by
  obtain ⟨hmonth, hday⟩ := h
  simp [monthDay?, hmonth.read, hday.read]

theorem monthDay?_eq_some_iff {year : ℤ} {date : Calendar.Date} :
    monthDay? year s = some (date, rest) ↔
      ∃ text, MonthDayForm text date.month date.day ∧ date.year = year ∧ s = text ++ rest := by
  constructor
  · intro h
    simp only [monthDay?, Option.bind_eq_bind, Option.bind_eq_some_iff, Prod.exists,
      List.isPrefixOf?_eq_some_iff_append_eq, fixedDigits?_eq_some_iff] at h
    obtain ⟨_, rfl, month, _, ⟨m, hmonth, rfl⟩, _, rfl, day, _, ⟨d, hday, rfl⟩, hdate⟩ := h
    cases hdate
    exact ⟨_, .mk hmonth hday, rfl, by simp⟩
  · rintro ⟨text, hmonthDay, rfl, rfl⟩
    exact hmonthDay.read date.year rest

theorem ClockForm.read {clock : Clock} (h : ClockForm text clock) (rest : List Char) :
    clock? (text ++ rest) = some (clock, rest) := by
  obtain ⟨hhour, hminute, hsecond⟩ := h
  simp [clock?, hhour.read, hminute.read, hsecond.read]

theorem clock?_eq_some_iff {clock : Clock} :
    clock? s = some (clock, rest) ↔ ∃ text, ClockForm text clock ∧ s = text ++ rest := by
  constructor
  · intro h
    simp only [clock?, Option.bind_eq_bind, Option.bind_eq_some_iff, Prod.exists,
      List.isPrefixOf?_eq_some_iff_append_eq, fixedDigits?_eq_some_iff] at h
    obtain ⟨hour, _, ⟨h, hhour, rfl⟩, _, rfl, minute, _, ⟨m, hminute, rfl⟩, _, rfl, second, _,
      ⟨sec, hsecond, rfl⟩, hclock⟩ := h
    cases hclock
    exact ⟨_, .mk hhour hminute hsecond, by simp⟩
  · rintro ⟨text, hclock, rfl⟩
    exact hclock.read rest

/-- The rest must not go on with digits or a point, which the reader would take for the fraction's own. -/
theorem FractionForm.read (h : FractionForm text n)
    (hrest : ∀ c ∈ rest.head?, c.isDigit = false ∧ c ≠ '.') :
    fraction? (text ++ rest) = some (n, rest) := by
  cases h with
  | whole =>
    rw [List.nil_append]
    unfold fraction?
    split
    · exact absurd rfl (hrest '.' rfl).2
    · rfl
  | digits h =>
    rw [List.cons_append, fraction?, splitDigits_append h.isDigit fun c hc => (hrest c hc).1]
    simp [h.ne_nil, Numeral.ofDigitChars_eq_decimalValue]

theorem fractionForm_of_fraction? (h : fraction? s = some (n, rest)) :
    ∃ text, FractionForm text n ∧ s = text ++ rest := by
  unfold fraction? at h
  split at h
  · rename_i s
    simp only [splitDigits, Numeral.ofDigitChars_eq_decimalValue] at h
    split at h
    · cases h
    · rename_i hsome
      cases h
      have hdigits : AreDigits (s.takeWhile Char.isDigit) :=
        ⟨fun hnil => hsome (List.isEmpty_iff.mpr hnil), fun c hc => List.mem_takeWhile_imp hc⟩
      exact ⟨_, .digits hdigits, by simp⟩
  · cases h
    exact ⟨[], .whole, rfl⟩

theorem OffsetForm.read {offset : ℤ} (h : OffsetForm text offset) (rest : List Char) :
    offset? (text ++ rest) = some (offset, rest) := by
  cases h with
  | zero h => simp [offset?, h]
  | ahead hhour hminute hlt => simp [offset?, hhour.read, hminute.read, hlt]
  | behind hhour hminute hlt => simp [offset?, hhour.read, hminute.read, hlt]

theorem offset?_eq_some_iff {offset : ℤ} :
    offset? s = some (offset, rest) ↔ ∃ text, OffsetForm text offset ∧ s = text ++ rest := by
  constructor
  · intro h
    cases s with
    | nil => cases h
    | cons c s =>
      rw [offset?] at h
      split at h
      · rename_i hzero
        cases h
        exact ⟨[c], .zero hzero, rfl⟩
      · split at h
        · rename_i hsign
          simp only [Option.bind_eq_bind, Option.bind_eq_some_iff, Prod.exists,
            List.isPrefixOf?_eq_some_iff_append_eq, fixedDigits?_eq_some_iff] at h
          obtain ⟨hour, _, ⟨h, hhour, rfl⟩, _, rfl, minute, _, ⟨m, hminute, rfl⟩, hoffset⟩ := h
          split at hoffset
          · rename_i hlt
            cases hoffset
            rcases hsign with rfl | rfl
            · exact ⟨_, .ahead hhour hminute hlt, by simp⟩
            · exact ⟨_, .behind hhour hminute hlt, by simp⟩
          · cases hoffset
        · cases h
  · rintro ⟨text, hoffset, rfl⟩
    exact hoffset.read rest

theorem OffsetForm.head? {offset : ℤ} (h : OffsetForm text offset) :
    ∀ c ∈ text.head?, c.isDigit = false ∧ c ≠ '.' := by
  intro c hc
  cases h with
  | zero h =>
    cases hc
    rcases h with rfl | rfl <;> decide
  | ahead | behind =>
    cases hc
    decide

/-! ### Whole texts -/

inductive DateForm : List Char → Calendar.Date → Prop
  | mk {y md : List Char} {year : ℤ} {month day : Nat} (hyear : YearForm y year)
      (hmonthDay : MonthDayForm md month day) : DateForm (y ++ md) ⟨year, month, day⟩

inductive DateTimeForm : List Char → Calendar.Date → Clock → Prop
  | mk {y md c : List Char} {year : ℤ} {month day : Nat} {clock : Clock} (hyear : YearForm y year)
      (hmonthDay : MonthDayForm md month day) (hclock : ClockForm c clock) :
      DateTimeForm (y ++ (md ++ ' ' :: c)) ⟨year, month, day⟩ clock

/-- The year has no sign, and any character of one byte stands between date and clock. -/
inductive InternetForm : List Char → Calendar.Date → Clock → Nat → ℤ → Prop
  | mk {y md c f o : List Char} {separator : Char} {year month day nanosecond : Nat}
      {clock : Clock} {offset : ℤ} (hyear : Field 4 y year) (hmonthDay : MonthDayForm md month day)
      (hseparator : separator.toNat < 128) (hclock : ClockForm c clock)
      (hfraction : FractionForm f nanosecond) (hoffset : OffsetForm o offset) :
      InternetForm (y ++ (md ++ separator :: (c ++ (f ++ o)))) ⟨year, month, day⟩ clock nanosecond
        offset

/-- The instant that the fields of the internet form name. Second 60 is the last nanosecond before it, where a leap second can follow. -/
def ofFields? (date : Calendar.Date) (clock : Clock) (nanosecond : Nat) (offset : ℤ) :
    Option Timestamp :=
  if clock.second = 60 then
    (ofLocal? date { clock with second := 59 } 999999999 offset).bind fun t =>
      if t.EndsMonth then some t else none
  else ofLocal? date clock nanosecond offset

/-- What each reader asks of the rest. -/
theorem not_isEmpty_ne_true_iff : ¬ (!rest.isEmpty) = true ↔ rest = [] := by
  rw [Bool.not_eq_true, Bool.not_eq_false', List.isEmpty_iff]

theorem ofDateText?_eq_some_iff : ofDateText? s = some t ↔
    ∃ date, DateForm s date ∧ ofLocal? date ⟨0, 0, 0⟩ 0 0 = some t := by
  constructor
  · intro h
    simp only [ofDateText?, Option.bind_eq_bind, Option.bind_none, Option.bind_eq_some_iff,
      Option.ite_none_left_eq_some, not_isEmpty_ne_true_iff, Prod.exists, signedYear?_eq_some_iff,
      monthDay?_eq_some_iff] at h
    obtain ⟨_, _, ⟨y, hyear, rfl⟩, date, _, ⟨md, hmonthDay, rfl, rfl⟩, rfl, ht⟩ := h
    exact ⟨date, by simpa using DateForm.mk hyear hmonthDay, ht⟩
  · rintro ⟨_, ⟨hyear, hmonthDay⟩, ht⟩
    have hlast := fun year => hmonthDay.read year []
    simp only [List.append_nil] at hlast
    simpa [ofDateText?, hyear.read, hlast] using ht

theorem ofDateTimeText?_eq_some_iff : ofDateTimeText? s = some t ↔
    ∃ date clock, DateTimeForm s date clock ∧ ofLocal? date clock 0 0 = some t := by
  constructor
  · intro h
    simp only [ofDateTimeText?, Option.bind_eq_bind, Option.bind_none, Option.bind_eq_some_iff,
      Option.ite_none_left_eq_some, not_isEmpty_ne_true_iff, Prod.exists, signedYear?_eq_some_iff,
      monthDay?_eq_some_iff, List.isPrefixOf?_eq_some_iff_append_eq, clock?_eq_some_iff] at h
    obtain ⟨_, _, ⟨y, hyear, rfl⟩, date, _, ⟨md, hmonthDay, rfl, rfl⟩, _, rfl, clock, _,
      ⟨c, hclock, rfl⟩, rfl, ht⟩ := h
    exact ⟨date, clock, by simpa using DateTimeForm.mk hyear hmonthDay hclock, ht⟩
  · rintro ⟨_, _, ⟨hyear, hmonthDay, hclock⟩, ht⟩
    have hlast := hclock.read []
    rw [List.append_nil] at hlast
    simpa [ofDateTimeText?, hyear.read, hmonthDay.read, hlast] using ht

theorem ofInternetText?_eq_some_iff : ofInternetText? s = some t ↔
    ∃ date clock nanosecond offset, InternetForm s date clock nanosecond offset ∧
      ofFields? date clock nanosecond offset = some t := by
  constructor
  · intro h
    simp only [ofInternetText?, Option.bind_eq_bind, Option.bind_eq_some_iff, Prod.exists,
      fixedDigits?_eq_some_iff, monthDay?_eq_some_iff] at h
    obtain ⟨year, _, ⟨y, hyear, rfl⟩, date, behind, ⟨md, hmonthDay, hdate, rfl⟩, ht⟩ := h
    cases behind with
    | nil => cases ht
    | cons separator behind =>
      simp only [Option.bind_some, Option.bind_none, Option.bind_eq_some_iff,
        Option.ite_none_left_eq_some, Nat.not_le, not_isEmpty_ne_true_iff, Prod.exists,
        clock?_eq_some_iff, offset?_eq_some_iff] at ht
      obtain ⟨hseparator, clock, _, ⟨c, hclock, rfl⟩, nanosecond, _, hread, offset, _,
        ⟨o, hoffset, rfl⟩, rfl, ht⟩ := ht
      obtain ⟨f, hfraction, hbehind⟩ := fractionForm_of_fraction? hread
      subst hbehind
      obtain ⟨_, month, day⟩ := date
      subst hdate
      exact ⟨_, clock, nanosecond, offset, by
        simpa using InternetForm.mk hyear hmonthDay hseparator hclock hfraction hoffset, ht⟩
  · rintro ⟨_, _, _, _, ⟨hyear, hmonthDay, hseparator, hclock, hfraction, hoffset⟩, ht⟩
    have hlast := hoffset.read []
    rw [List.append_nil] at hlast
    simpa [ofInternetText?, hyear.read, hmonthDay.read, Nat.not_le.mpr hseparator, hclock.read,
      hfraction.read hoffset.head?, hlast, ofFields?] using ht

end Timestamp

end SearchFilter
