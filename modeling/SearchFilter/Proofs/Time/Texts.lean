import SearchFilter.Proofs.Time.Fields
/-!
# The text of a point in time

The texts that are written are those of the timestamps that fit the internet form, and the reader takes each for its timestamp: it finds every field where it was written, the local date and clock give back the instant, and no form but the first is tried. This includes instants whose year in universal time is not the year in the text.
-/

namespace SearchFilter

namespace Timestamp

variable {t : Timestamp} {s : String}

/-- The internet form has room for the local year and for the offset. -/
structure Fits (t : Timestamp) : Prop where
  year_nonneg : 0 ≤ t.localTime.1.year
  year_le : t.localTime.1.year ≤ 9999
  hour_le : t.offset.natAbs / 3600 ≤ 23
  second_eq : t.offset.natAbs % 60 = 0

/-- The characters of the internet form, whether the timestamp fits or not. -/
def internetText (t : Timestamp) : List Char :=
  dateText t.localTime.1 ++ 'T' :: clockText t.localTime.2 ++ fractionText t.nanosecond ++
    offsetText t.offset

theorem text?_eq_ok_iff : t.text? = .ok s ↔ t.Fits ∧ s = String.ofList t.internetText := by
  have htext : t.text? =
      if t.localTime.1.year < 0 ∨ 9999 < t.localTime.1.year then .error .year
      else if 23 < t.offset.natAbs / 3600 then .error .offsetHour
      else if t.offset.natAbs % 60 ≠ 0 then .error .offsetSecond
      else .ok (String.ofList t.internetText) := rfl
  have hfits : t.Fits ↔ ¬ (t.localTime.1.year < 0 ∨ 9999 < t.localTime.1.year) ∧
      ¬ 23 < t.offset.natAbs / 3600 ∧ ¬ t.offset.natAbs % 60 ≠ 0 := by
    constructor
    · intro ⟨hnonneg, hle, hhour, hsecond⟩
      omega
    · intro ⟨hyear, hhour, hsecond⟩
      exact ⟨by omega, by omega, by omega, by omega⟩
  rw [hfits, htext]
  split_ifs with hyear hhour hsecond
  · simp [hyear]
  · simp [hhour]
  · simp [hsecond]
  · simp [hyear, hhour, hsecond, eq_comm]

/-! ### Local time -/

theorem localTime_snd_lt (t : Timestamp) : t.localTime.2 < 86400 := by
  simp only [localTime]
  omega

theorem valid_localTime (t : Timestamp) : t.localTime.1.Valid := Calendar.valid_ofDays _

theorem ofLocal?_localTime (t : Timestamp) :
    ofLocal? t.localTime.1 (Clock.ofSeconds t.localTime.2) t.nanosecond t.offset = some t := by
  have hclock := Clock.valid_ofSeconds (localTime_snd_lt t)
  have hdays : t.localTime.1.toDays = (t.seconds + t.offset) / 86400 + Calendar.epochDay :=
    Calendar.toDays_ofDays _
  have hsecond : t.localTime.2 = ((t.seconds + t.offset) % 86400).toNat := rfl
  have hseconds : (t.localTime.1.toDays - Calendar.epochDay) * 86400 + t.localTime.2 - t.offset =
      t.seconds := by omega
  rw [ofLocal?, dif_pos ⟨valid_localTime t, hclock, t.nanosecond_lt⟩]
  simp only [Clock.toSeconds_ofSeconds, hseconds]

/-! ### Reading what was written -/

theorem head?_offsetText (offset : Int) :
    ∀ c ∈ (offsetText offset).head?, c.isDigit = false ∧ c ≠ '.' := by
  intro c hc
  rw [offsetText] at hc
  split_ifs at hc
  all_goals
    cases hc
    decide

theorem ofInternetText?_internetText (h : t.Fits) : ofInternetText? t.internetText = some t := by
  have hyear : t.localTime.1.year.toNat < 10000 := by
    have hle := h.year_le
    omega
  have hcast : max t.localTime.1.year 0 = t.localTime.1.year := max_eq_left h.year_nonneg
  have hsecond : (Clock.ofSeconds t.localTime.2).second ≠ 60 :=
    (Clock.valid_ofSeconds (localTime_snd_lt t)).2.2.ne
  have hfraction := fraction?_fractionText t.nanosecond_lt (head?_offsetText t.offset)
  have hoffset := offset?_offsetText h.hour_le h.second_eq
  simp [ofInternetText?, internetText, dateText, hyear, hcast, monthDay?_dateText (valid_localTime t),
    clock?_clockText (localTime_snd_lt t), hfraction, hoffset, hsecond, ofLocal?_localTime]

theorem ofText?_of_text? (h : t.text? = .ok s) : ofText? s = some t := by
  obtain ⟨hfits, rfl⟩ := text?_eq_ok_iff.mp h
  rw [ofText?, String.toList_ofList, ofInternetText?_internetText hfits]
  rfl

end Timestamp

end SearchFilter
