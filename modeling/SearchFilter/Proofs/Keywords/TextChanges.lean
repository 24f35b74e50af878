import SearchFilter.Modifier
import SearchFilter.Proofs.Keywords.Survival
/-!
# Keywords of a text that modifiers change

Modifiers take blank characters off a text and change its case, in any order and as often as a name says. Only capitals can cost a text its keywords: `tokens_changed_ne_nil_iff` shows that a text keeps one through a chain of changes exactly if it has one in capitals or, where the chain has no step to capitals, as it stands.
-/

namespace SearchFilter

def TextChange.applyAll (changes : List TextChange) (text : String) : String :=
  changes.foldl (fun text change => change.apply text) text

namespace Keywords

open Text

variable {table : List Letterlike} {text : String} {change : TextChange} {changes : List TextChange}

/-! ### Survival -/

theorem exists_trimmed (hlower : change ≠ .lowercase) (hupper : change ≠ .uppercase)
    (text : String) :
    ∃ front back, text.toList = front ++ (change.apply text).toList ++ back ∧
      (∀ c ∈ front, isBlank c = true) ∧ ∀ c ∈ back, isBlank c = true := by
  cases change with
  | lowercase => exact absurd rfl hlower
  | uppercase => exact absurd rfl hupper
  | trimStart =>
    have hstart : text.toList = text.toList.takeWhile isBlank ++ text.toList.dropWhile isBlank :=
      List.takeWhile_append_dropWhile.symm
    refine ⟨text.toList.takeWhile isBlank, [], ?_, fun c hc => List.mem_takeWhile_imp hc,
      fun c hc => absurd hc List.not_mem_nil⟩
    rwa [TextChange.apply, trimStart, String.toList_ofList, List.append_nil]
  | trimEnd =>
    have hend : text.toList = text.toList.rdropWhile isBlank ++ text.toList.rtakeWhile isBlank :=
      List.rdropWhile_append_rtakeWhile.symm
    refine ⟨[], text.toList.rtakeWhile isBlank, ?_, fun c hc => absurd hc List.not_mem_nil,
      fun c hc => List.mem_rtakeWhile_imp hc⟩
    rwa [TextChange.apply, trimEnd, String.toList_ofList, List.nil_append]
  | trim =>
    rw [TextChange.apply]
    exact exists_trim text

/-- No change that respects the table makes a difference to surviving. -/
theorem survives_apply (hlower : Respects table LowerImage)
    (hupper : change = .uppercase → Respects table fun c image => image = uppercaseChar c) :
    Survives table (change.apply text).toList ↔ Survives table text.toList := by
  by_cases hcapitals : change = .uppercase
  · subst hcapitals
    exact (hupper rfl).survives_iff (images_uppercase text)
  · by_cases hsmall : change = .lowercase
    · subst hsmall
      exact hlower.survives_iff (images_lowercase text)
    · obtain ⟨front, back, heq, hfront, hback⟩ := exists_trimmed hsmall hcapitals text
      rw [heq]
      exact (survives_append (fun c hc => isWordChar_of_isBlank (hfront c hc))
        fun c hc => isWordChar_of_isBlank (hback c hc)).symm

theorem survives_applyAll (hlower : Respects table LowerImage)
    (hupper : .uppercase ∈ changes → Respects table fun c image => image = uppercaseChar c) :
    Survives table (TextChange.applyAll changes text).toList ↔ Survives table text.toList := by
  induction changes generalizing text with
  | nil => rfl
  | cons change rest ih =>
    have hrest : Survives table (TextChange.applyAll rest (change.apply text)).toList ↔
        Survives table (change.apply text).toList :=
      ih fun hmem => hupper (List.mem_cons_of_mem _ hmem)
    exact hrest.trans (survives_apply hlower fun heq => hupper (heq ▸ List.mem_cons_self))

/-! ### Faint characters -/

theorem clear_lowerTable (s : List Char) : Clear lowerTable s := by
  have hnone : ∀ entry ∈ lowerTable, ¬ entry.Faint := by decide +kernel
  exact fun entry hentry hfaint => absurd hfaint (hnone entry hentry)

theorem clear_uppercase (text : String) : Clear fullTable (uppercase text).toList := by
  have hnone : ∀ entry ∈ fullTable, entry.Faint →
      (∀ run ∈ uppercaseRuns, run.misses entry.char = true) ∧
        (∀ expansion ∈ uppercaseExpansions, entry.char ∉ expansion.2.map Char.ofNat) ∧
        entry.char ∉ uppercaseChar entry.char := by decide +kernel
  intro entry hentry hfaint hmem
  obtain ⟨hruns, hexpansions, hself⟩ := hnone entry hentry hfaint
  obtain ⟨c, _, image, rfl, himage⟩ := (images_uppercase text).exists_of_mem_image hmem
  have hlarge := entry.large
  have hsame := eq_of_mem_uppercaseChar hruns (by omega) hexpansions himage
  rw [hsame] at himage
  exact hself himage

theorem Clear.lowercase (h : Clear fullTable text.toList) :
    Clear fullTable (Text.lowercase text).toList := by
  have hnone : ∀ entry ∈ fullTable, entry.Faint →
      (∀ run ∈ lowercaseRuns, run.misses entry.char = true) ∧
        entry.char ∉ ['i', '\u0307', 'ς'] := by decide +kernel
  intro entry hentry hfaint hmem
  obtain ⟨hruns, hother⟩ := hnone entry hentry hfaint
  obtain ⟨c, hc, image, himage, hchar⟩ := (images_lowercase text).exists_of_mem_image hmem
  have hlarge := entry.large
  have hsame := eq_of_mem_lowerImage hruns (by omega) hother himage hchar
  rw [hsame] at hc
  exact h entry hentry hfaint hc

/-- Only capitals clear a text of faint characters, and no change adds any. -/
theorem clear_apply (h : change = .uppercase ∨ Clear fullTable text.toList) :
    Clear fullTable (change.apply text).toList := by
  by_cases hcapitals : change = .uppercase
  · subst hcapitals
    exact clear_uppercase text
  · have hclear := h.resolve_left hcapitals
    by_cases hsmall : change = .lowercase
    · subst hsmall
      exact hclear.lowercase
    · obtain ⟨front, back, heq, _, _⟩ := exists_trimmed hsmall hcapitals text
      intro entry hentry hfaint hmem
      refine hclear entry hentry hfaint ?_
      rw [heq]
      exact List.mem_append_left _ (List.mem_append_right _ hmem)

theorem clear_applyAll (h : .uppercase ∈ changes ∨ Clear fullTable text.toList) :
    Clear fullTable (TextChange.applyAll changes text).toList := by
  induction changes generalizing text with
  | nil => exact h.resolve_left List.not_mem_nil
  | cons change rest ih =>
    refine ih ?_
    rcases h with hmem | hclear
    · rcases List.mem_cons.mp hmem with heq | hmem
      · exact .inr (clear_apply (.inl heq.symm))
      · exact .inl hmem
    · exact .inr (clear_apply (.inr hclear))

/-! ### Keywords -/

theorem hasKeyword_iff_survives (hlower : Respects table LowerImage) {s : List Char}
    (hclear : Clear table s) : HasKeyword s ↔ Survives table s :=
  ⟨survives_of_hasKeyword hclear, hasKeyword_of_survives hlower⟩

/-- A text has keywords after a chain of changes exactly if it has some in capitals, should the chain write it in capitals anywhere, or else as it stands. -/
theorem tokens_applyAll_ne_nil_iff (changes : List TextChange) (text : String) :
    tokens (TextChange.applyAll changes text) ≠ [] ↔
      tokens (if .uppercase ∈ changes then uppercase text else text) ≠ [] := by
  rw [tokens_ne_nil_iff, tokens_ne_nil_iff]
  split
  · rename_i hcapitals
    have hsurvives : Survives fullTable (uppercase text).toList ↔ Survives fullTable text.toList :=
      fullTable_respects_upper.survives_iff (images_uppercase text)
    rw [hasKeyword_iff_survives fullTable_respects_lower (clear_applyAll (.inl hcapitals)),
      survives_applyAll fullTable_respects_lower fun _ => fullTable_respects_upper,
      hasKeyword_iff_survives fullTable_respects_lower (clear_uppercase text), hsurvives]
  · rename_i hcapitals
    rw [hasKeyword_iff_survives lowerTable_respects_lower (clear_lowerTable _),
      survives_applyAll lowerTable_respects_lower fun hmem => absurd hmem hcapitals,
      hasKeyword_iff_survives lowerTable_respects_lower (clear_lowerTable _)]

end Keywords

end SearchFilter
