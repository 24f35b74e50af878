import SearchFilter.Proofs.Selection
import SearchFilter.Proofs.Time.Forms
/-!
# One form at most

No text has two of the three forms. A date alone has at most 11 characters, a date and time of day 19 or 20, the internet form at least 20. Where the last two meet, the date and time of day begins with a sign and the internet form with a digit. So it does not matter in which order the forms are tried.
-/

namespace SearchFilter

namespace Timestamp


variable {s text : List Char} {t : Timestamp} {year : ℤ} {date : Calendar.Date} {clock : Clock}
  {nanosecond : Nat} {offset : ℤ}

/-! ### Lengths -/

theorem YearForm.length_cases (h : YearForm text year) :
    text.length = 4 ∨ text.length = 5 ∧ ∃ c, text.head? = some c ∧ c.isDigit = false := by
  cases h with
  | unsigned h => exact .inl h.length_eq
  | plus h => exact .inr ⟨by simp [h.length_eq], '+', rfl, by decide⟩
  | minus h => exact .inr ⟨by simp [h.length_eq], '-', rfl, by decide⟩

theorem MonthDayForm.length_eq {month day : Nat} (h : MonthDayForm text month day) :
    text.length = 6 := by
  obtain ⟨hmonth, hday⟩ := h
  simp [hmonth.length_eq, hday.length_eq]

theorem ClockForm.length_eq (h : ClockForm text clock) : text.length = 8 := by
  obtain ⟨hhour, hminute, hsecond⟩ := h
  simp [hhour.length_eq, hminute.length_eq, hsecond.length_eq]

theorem OffsetForm.length_pos (h : OffsetForm text offset) : 0 < text.length := by
  cases h <;> exact Nat.succ_pos _

theorem DateForm.length_le (h : DateForm s date) : s.length ≤ 11 := by
  obtain ⟨hyear, hmonthDay⟩ := h
  have hcases := hyear.length_cases
  rw [List.length_append, hmonthDay.length_eq]
  omega

theorem DateTimeForm.length_cases (h : DateTimeForm s date clock) :
    s.length = 19 ∨ s.length = 20 ∧ ∃ c, s.head? = some c ∧ c.isDigit = false := by
  obtain ⟨hyear, hmonthDay, hclock⟩ := h
  rcases hyear.length_cases with hlength | ⟨hlength, c, hc, hsign⟩
  · exact .inl (by simp [hlength, hmonthDay.length_eq, hclock.length_eq])
  · exact .inr ⟨by simp [hlength, hmonthDay.length_eq, hclock.length_eq], c, by simp [hc], hsign⟩

theorem InternetForm.le_length (h : InternetForm s date clock nanosecond offset) :
    20 ≤ s.length := by
  obtain ⟨hyear, hmonthDay, _, hclock, _, hoffset⟩ := h
  have hpos := hoffset.length_pos
  simp only [List.length_append, List.length_cons, hyear.length_eq, hmonthDay.length_eq,
    hclock.length_eq]
  omega

theorem InternetForm.exists_head? (h : InternetForm s date clock nanosecond offset) :
    ∃ c, s.head? = some c ∧ c.isDigit = true := by
  obtain ⟨hyear, _⟩ := h
  obtain ⟨c, hc, hdigit⟩ := hyear.exists_head?
  exact ⟨c, by simp [hc], hdigit⟩

/-! ### Two forms at once -/

theorem InternetForm.not_dateTimeForm {date' : Calendar.Date} {clock' : Clock}
    (h : InternetForm s date clock nanosecond offset) : ¬ DateTimeForm s date' clock' := by
  intro hdateTime
  have hlong := h.le_length
  rcases hdateTime.length_cases with hlength | ⟨_, sign, hsign, hnot⟩
  · omega
  · obtain ⟨c, hc, hdigit⟩ := h.exists_head?
    cases hc.symm.trans hsign
    cases hdigit.symm.trans hnot

theorem InternetForm.not_dateForm {date' : Calendar.Date}
    (h : InternetForm s date clock nanosecond offset) : ¬ DateForm s date' := by
  intro hdate
  have hlong := h.le_length
  have hshort := hdate.length_le
  omega

theorem DateTimeForm.not_dateForm {date' : Calendar.Date} (h : DateTimeForm s date clock) :
    ¬ DateForm s date' := by
  intro hdate
  have hlong := h.length_cases
  have hshort := hdate.length_le
  omega

/-! ### Readers -/

def readers : List (List Char → Option Timestamp) := [ofInternetText?, ofDateTimeText?, ofDateText?]

theorem ofText?_eq_findSome? (text : String) :
    ofText? text = readers.findSome? fun read => read text.toList := by
  simp only [ofText?, readers, List.findSome?_cons, List.findSome?_nil]
  cases ofInternetText? text.toList with
  | some _ => rfl
  | none =>
    cases ofDateTimeText? text.toList with
    | some _ => rfl
    | none => cases ofDateText? text.toList <;> rfl

theorem pairwise_readers (s : List Char) : readers.Pairwise fun first second =>
    (first s).isSome = true → (second s).isSome = false := by
  have hdateTime : (ofInternetText? s).isSome = true → (ofDateTimeText? s).isSome = false :=
    isSome_eq_false_of_ne_some fun _ _ hread hother => by
      obtain ⟨_, _, _, _, hform, _⟩ := ofInternetText?_eq_some_iff.mp hread
      obtain ⟨_, _, hform', _⟩ := ofDateTimeText?_eq_some_iff.mp hother
      exact hform.not_dateTimeForm hform'
  have hdate : (ofInternetText? s).isSome = true → (ofDateText? s).isSome = false :=
    isSome_eq_false_of_ne_some fun _ _ hread hother => by
      obtain ⟨_, _, _, _, hform, _⟩ := ofInternetText?_eq_some_iff.mp hread
      obtain ⟨_, hform', _⟩ := ofDateText?_eq_some_iff.mp hother
      exact hform.not_dateForm hform'
  have hdate' : (ofDateTimeText? s).isSome = true → (ofDateText? s).isSome = false :=
    isSome_eq_false_of_ne_some fun _ _ hread hother => by
      obtain ⟨_, _, hform, _⟩ := ofDateTimeText?_eq_some_iff.mp hread
      obtain ⟨_, hform', _⟩ := ofDateText?_eq_some_iff.mp hother
      exact hform.not_dateForm hform'
  simp only [readers, List.pairwise_cons, List.mem_cons, List.not_mem_nil, or_false,
    forall_eq_or_imp, forall_eq]
  exact ⟨⟨hdateTime, hdate⟩, hdate', fun _ h => h.elim, .nil⟩

/-- The instant that a text names in one of the three forms. -/
inductive Names (s : List Char) (t : Timestamp) : Prop
  | internet {d : Calendar.Date} {c : Clock} {n : Nat} {offset : ℤ} (hform : InternetForm s d c n offset)
      (ht : ofFields? d c n offset = some t) : Names s t
  | dateTime {d : Calendar.Date} {c : Clock} (hform : DateTimeForm s d c)
      (ht : ofLocal? d c 0 0 = some t) : Names s t
  | date {d : Calendar.Date} (hform : DateForm s d) (ht : ofLocal? d ⟨0, 0, 0⟩ 0 0 = some t) : Names s t

theorem exists_mem_readers_iff : (∃ read ∈ readers, read s = some t) ↔ Names s t := by
  simp only [readers, List.mem_cons, List.not_mem_nil, or_false, exists_eq_or_imp, exists_eq_left,
    ofInternetText?_eq_some_iff, ofDateTimeText?_eq_some_iff, ofDateText?_eq_some_iff]
  constructor
  · rintro (⟨_, _, _, _, hform, ht⟩ | ⟨_, _, hform, ht⟩ | ⟨_, hform, ht⟩)
    · exact .internet hform ht
    · exact .dateTime hform ht
    · exact .date hform ht
  · intro h
    cases h with
    | internet hform ht => exact .inl ⟨_, _, _, _, hform, ht⟩
    | dateTime hform ht => exact .inr (.inl ⟨_, _, hform, ht⟩)
    | date hform ht => exact .inr (.inr ⟨_, hform, ht⟩)

/-- At most one form reads a text, so every order in which the forms are tried gives the instant that the text names. -/
theorem ofText?_unambiguous (text : String) :
    (readers.filter fun read => (read text.toList).isSome).length ≤ 1 ∧
      (∀ order : List (List Char → Option Timestamp), order.Perm readers →
        order.findSome? (fun read => read text.toList) = ofText? text) ∧
      ∀ t, ofText? text = some t ↔ Names text.toList t := by
  have hpairwise := pairwise_readers text.toList
  refine ⟨length_filter_le_one_of_pairwise hpairwise, fun order horder => ?_, fun t => ?_⟩
  · rw [ofText?_eq_findSome?]
    exact findSome?_eq_of_perm horder hpairwise
  · rw [ofText?_eq_findSome?, findSome?_eq_some_iff_of_pairwise hpairwise]
    exact exists_mem_readers_iff

/-- Twenty characters with a space in the middle could be either of the longer forms. The sign decides. -/
theorem ofText?_unambiguous_signed :
    readers.reverse.Perm readers ∧
      readers.reverse.findSome? (fun read => read "+2024-02-29 23:59:59".toList) =
        ofText? "+2024-02-29 23:59:59" ∧
      (ofText? "+2024-02-29 23:59:59").isSome = true :=
  ⟨List.reverse_perm readers,
    (ofText?_unambiguous "+2024-02-29 23:59:59").2.1 _ (List.reverse_perm readers), by decide +kernel⟩

end Timestamp

end SearchFilter
