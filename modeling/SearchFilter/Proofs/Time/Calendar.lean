import Mathlib.Algebra.Ring.Nat
import SearchFilter.Time.Calendar
/-!
# Dates and day counts

Every day lies in the year that is computed for it, between the first day of this year and that of the next. The lengths of the months add up to the days between the two, so the walk over the months ends on a day that its month has. So every count of days gives a date of the calendar, and the date gives back the count.
-/

namespace SearchFilter

namespace Calendar

/-! ### Years -/

theorem firstDayOfYear_yearOfDay_le (days : Int) : firstDayOfYear (yearOfDay days) ≤ days := by
  unfold yearOfDay
  simp only
  split_ifs with hbefore hafter
  · unfold firstDayOfYear at *
    omega
  · exact hafter
  · exact Int.not_lt.mp hbefore

theorem lt_firstDayOfYear_yearOfDay_succ (days : Int) :
    days < firstDayOfYear (yearOfDay days + 1) := by
  unfold yearOfDay
  simp only
  split_ifs with hbefore hafter
  · simpa using hbefore
  · unfold firstDayOfYear at *
    omega
  · exact Int.not_le.mp hafter

theorem sum_monthLengths (year : Int) :
    ((monthLengths year).sum : Int) = firstDayOfYear (year + 1) - firstDayOfYear year := by
  by_cases h : IsLeapYear year
  · have hsum : (monthLengths year).sum = 366 := by simp [monthLengths, h]
    unfold IsLeapYear at h
    unfold firstDayOfYear
    omega
  · have hsum : (monthLengths year).sum = 365 := by simp [monthLengths, h]
    unfold IsLeapYear at h
    unfold firstDayOfYear
    omega

/-! ### Months -/

/-- The walk stops in a month that has the day, and the months before it make up the rest of the index. -/
theorem exists_monthAndDay {lengths : List Nat} {index : Nat} (month : Nat) (h : index < lengths.sum) :
    ∃ before length after day, lengths = before ++ length :: after ∧
      monthAndDay month lengths index = (month + before.length, day) ∧
      1 ≤ day ∧ day ≤ length ∧ before.sum + day = index + 1 := by
  induction lengths generalizing month index with
  | nil => exact absurd h (Nat.not_lt_zero index)
  | cons length rest ih =>
    rw [List.sum_cons] at h
    rw [monthAndDay]
    split_ifs with hindex
    · exact ⟨[], length, rest, index + 1, rfl, rfl, by omega, hindex, by simp⟩
    · obtain ⟨before, stop, after, day, hrest, hwalk, hday, hlength, hsum⟩ :=
        ih (month + 1) (show index - length < rest.sum by omega)
      refine ⟨length :: before, stop, after, day, by rw [hrest, List.cons_append], ?_, hday,
        hlength, by rw [List.sum_cons]; omega⟩
      rw [hwalk, List.length_cons]
      congr 1
      omega

/-! ### Dates -/

theorem length_monthLengths (year : Int) : (monthLengths year).length = 12 := rfl

theorem daysInMonth_le (year : Int) (month : Nat) : daysInMonth year month ≤ 31 := by
  have hlengths : ∀ length ∈ monthLengths year, length ≤ 31 := by
    by_cases hleap : IsLeapYear year
    · simp [monthLengths, hleap]
    · simp [monthLengths, hleap]
  rw [daysInMonth]
  split_ifs
  · exact Nat.zero_le 31
  · rw [List.getD_eq_getElem?_getD]
    cases hget : (monthLengths year)[month - 1]? with
    | none => exact Nat.zero_le 31
    | some length => exact hlengths length (List.mem_of_getElem? hget)

theorem valid_and_toDays_ofDays (days : Int) :
    (Date.ofDays days).Valid ∧ (Date.ofDays days).toDays = days := by
  have hlow := firstDayOfYear_yearOfDay_le days
  have hhigh := lt_firstDayOfYear_yearOfDay_succ days
  have hyear := sum_monthLengths (yearOfDay days)
  have hindex : (days - firstDayOfYear (yearOfDay days)).toNat <
      (monthLengths (yearOfDay days)).sum := by omega
  obtain ⟨before, length, after, day, hlengths, hwalk, hday, hlength, hsum⟩ :=
    exists_monthAndDay 1 hindex
  have hdate : Date.ofDays days = ⟨yearOfDay days, 1 + before.length, day⟩ := by
    simp only [Date.ofDays, hwalk]
  have hmonths : before.length + (after.length + 1) = 12 := by
    rw [← length_monthLengths (yearOfDay days), hlengths, List.length_append, List.length_cons]
  have hmonth : 1 + before.length - 1 = before.length := by omega
  have hget : (monthLengths (yearOfDay days)).getD before.length 0 = length := by
    simp [hlengths]
  have htake : (monthLengths (yearOfDay days)).take before.length = before := by
    simp [hlengths]
  rw [hdate]
  constructor
  · have hin : daysInMonth (yearOfDay days) (1 + before.length) = length := by
      rw [daysInMonth, if_neg (by omega), hmonth, hget]
    rw [← hin] at hlength
    exact ⟨Nat.le_add_right _ _, show 1 + before.length ≤ 12 by omega, hday, hlength⟩
  · simp only [Date.toDays, hmonth, htake, ← List.sum_eq_foldl]
    omega

theorem valid_ofDays (days : Int) : (Date.ofDays days).Valid := (valid_and_toDays_ofDays days).1

theorem toDays_ofDays (days : Int) : (Date.ofDays days).toDays = days :=
  (valid_and_toDays_ofDays days).2

end Calendar

end SearchFilter
