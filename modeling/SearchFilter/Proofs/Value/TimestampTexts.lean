import SearchFilter.Proofs.Time.Texts
import SearchFilter.Value.Coercion
/-!
# Points in time as texts

A point in time that becomes a text comes back from it unchanged, its offset included. Nothing in the text is blank, so the reader has nothing to take off its ends.
-/

namespace SearchFilter

namespace Timestamp

variable {t : Timestamp} {s : String}

theorem isBlank_of_mem_padded (width n : Nat) : ∀ c ∈ padded width n, Text.isBlank c = false :=
  fun _ hc => Numeral.isBlank_of_isDigit (isDigit_of_mem_padded hc)

theorem isBlank_of_mem_dateText (date : Calendar.Date) :
    ∀ c ∈ dateText date, Text.isBlank c = false := by
  simp only [dateText, List.forall_mem_append, List.forall_mem_cons]
  exact ⟨⟨isBlank_of_mem_padded _ _, by decide, isBlank_of_mem_padded _ _⟩, by decide,
    isBlank_of_mem_padded _ _⟩

theorem isBlank_of_mem_clockText (second : Nat) : ∀ c ∈ clockText second, Text.isBlank c = false := by
  simp only [clockText, List.forall_mem_append, List.forall_mem_cons]
  exact ⟨⟨isBlank_of_mem_padded _ _, by decide, isBlank_of_mem_padded _ _⟩, by decide,
    isBlank_of_mem_padded _ _⟩

theorem isBlank_of_mem_fractionText {nanosecond : Nat} (h : nanosecond < 10 ^ 9) :
    ∀ c ∈ fractionText nanosecond, Text.isBlank c = false := by
  by_cases hzero : nanosecond = 0
  · simp [fractionText, hzero]
  · obtain ⟨digits, zeros, htext, _, hdigits, _⟩ := exists_fractionText hzero h
    rw [htext, List.forall_mem_cons]
    exact ⟨by decide, fun c hc => Numeral.isBlank_of_isDigit (hdigits c hc)⟩

theorem isBlank_of_mem_offsetText (offset : Int) : ∀ c ∈ offsetText offset, Text.isBlank c = false := by
  rw [offsetText]
  split_ifs
  · exact List.forall_mem_singleton.mpr (by decide)
  all_goals
    simp only [List.forall_mem_cons, List.forall_mem_append]
    exact ⟨by decide, isBlank_of_mem_padded _ _, by decide, isBlank_of_mem_padded _ _⟩

theorem isBlank_of_mem_internetText (t : Timestamp) : ∀ c ∈ t.internetText, Text.isBlank c = false := by
  simp only [internetText, List.forall_mem_append, List.forall_mem_cons]
  exact ⟨⟨⟨isBlank_of_mem_dateText _, by decide, isBlank_of_mem_clockText _⟩,
    isBlank_of_mem_fractionText t.nanosecond_lt⟩, isBlank_of_mem_offsetText _⟩

theorem trim_of_text? (h : t.text? = .ok s) : Text.trim s = s := by
  obtain ⟨_, rfl⟩ := text?_eq_ok_iff.mp h
  refine Text.trim_eq_self fun c hc => ?_
  rw [String.toList_ofList] at hc
  exact isBlank_of_mem_internetText t c hc

end Timestamp

namespace Value

theorem toText_timestamp_eq_ok_iff {t : Timestamp} {s : String} :
    toText (timestamp t) = .ok (string s) ↔ t.text? = .ok s := by
  unfold toText
  dsimp only
  cases t.text? with
  | ok text => simp
  | error e => simp

/-- The text of a point in time is read as this point in time, by itself and in a coercion. -/
theorem coerceScalar_timestamp_text (parseTemporal : String → Option Timestamp) (t : Timestamp)
    (s : String) (h : coerceScalar parseTemporal .text (timestamp t) = .ok (string s)) :
    Timestamp.ofText? s = some t ∧
      coerceScalar Timestamp.ofText? .temporal (string s) = .ok (timestamp t) := by
  rw [coerceScalar, toText_timestamp_eq_ok_iff] at h
  have hread := Timestamp.ofText?_of_text? h
  refine ⟨hread, ?_⟩
  rw [coerceScalar, toTemporal]
  simp only [Timestamp.trim_of_text? h, hread]

/-- The last second of the year 9999 half an hour behind universal time, where the year is 10000 already. -/
def closingSecond : Timestamp := { seconds := 253402302599, nanosecond := 120000000, offset := -1800 }

theorem coerceScalar_closingSecond_text :
    coerceScalar (fun _ => none) .text (timestamp closingSecond) =
        .ok (string "9999-12-31T23:59:59.12-00:30") ∧
      Timestamp.ofText? "9999-12-31T23:59:59.12-00:30" = some closingSecond ∧
      coerceScalar Timestamp.ofText? .temporal (string "9999-12-31T23:59:59.12-00:30") =
        .ok (timestamp closingSecond) := by
  have htext : coerceScalar (fun _ => none) .text (timestamp closingSecond) =
      .ok (string "9999-12-31T23:59:59.12-00:30") := by
    rw [coerceScalar, toText_timestamp_eq_ok_iff]
    decide +kernel
  exact ⟨htext, coerceScalar_timestamp_text _ _ _ htext⟩

end Value

end SearchFilter
