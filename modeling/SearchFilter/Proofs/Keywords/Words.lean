import SearchFilter.Kind.Keywords
import SearchFilter.Proofs.Text.CaseMapping
import SearchFilter.Proofs.Text.Trimming
/-!
# Words of a text

A text has a keyword if one of its parts, with apostrophes and hyphens taken off its ends, is a word that is not too common. What stands around a text and belongs to no word makes no difference.

Taking off apostrophes and hyphens stops at the first other character, so a stretch without them keeps what is left of either side. Common words consist of small letters from a to z, and a word is one of them if and only if its lower case form is.
-/

namespace SearchFilter

namespace Keywords

variable {c : Char} {s t front back part w : List Char}

/-! ### Characters -/

theorem isWordChar_of_isAlphanumeric (h : Text.isAlphanumeric c = true) : isWordChar c = true := by
  rw [isWordChar, h, Bool.true_or]

theorem isWordChar_of_isInner (h : isInner c = true) : isWordChar c = true := by
  rw [isWordChar, h, Bool.or_true]

theorem eq_of_isInner (h : isInner c = true) : c = '\x27' ∨ c = '-' := by
  rw [isInner, Bool.or_eq_true, beq_iff_eq, beq_iff_eq] at h
  exact h

theorem isInner_eq_false (h : 128 ≤ c.toNat) : isInner c = false := by
  by_contra hinner
  rcases eq_of_isInner (Bool.not_eq_false _ ▸ hinner) with rfl | rfl
  · exact absurd h (by decide)
  · exact absurd h (by decide)

theorem isWordChar_of_isBlank (h : Text.isBlank c = true) : isWordChar c = false := by
  have hapart : ∀ blank ∈ Text.blankRanges, (∀ range ∈ Text.alphanumericRanges,
      blank.2 < range.1 ∨ range.2 < blank.1) ∧ ¬ (blank.1 ≤ 0x27 ∧ 0x27 ≤ blank.2) ∧
        ¬ (blank.1 ≤ 0x2D ∧ 0x2D ≤ blank.2) := by decide +kernel
  obtain ⟨blank, hblank, hc⟩ := List.any_eq_true.mp h
  rw [Bool.and_eq_true, decide_eq_true_eq, decide_eq_true_eq] at hc
  obtain ⟨hranges, happostrophe, hhyphen⟩ := hapart blank hblank
  rw [isWordChar, Bool.or_eq_false_iff]
  constructor
  · refine List.any_eq_false.mpr fun range hrange hmem => ?_
    rw [Bool.and_eq_true, decide_eq_true_eq, decide_eq_true_eq] at hmem
    rcases hranges range hrange with hbefore | hbehind <;> omega
  · by_contra hinner
    rcases eq_of_isInner (Bool.not_eq_false _ ▸ hinner) with rfl | rfl
    · exact happostrophe hc
    · exact hhyphen hc

/-! ### Taking off apostrophes and hyphens -/

/-- Around a stretch that neither begins nor ends with them, apostrophes and hyphens are taken off either side by itself. -/
theorem trimWord_append (hne : w ≠ []) (hhead : ∀ c ∈ w.head?, isInner c = false)
    (hlast : ∀ c ∈ w.getLast?, isInner c = false) (front back : List Char) :
    trimWord (front ++ w ++ back) =
      front.dropWhile isInner ++ w ++ back.rdropWhile isInner :=
  Text.dropEnds_append hne hhead hlast front back

theorem exists_trimWord (part : List Char) : ∃ front back, part = front ++ trimWord part ++ back ∧
    (∀ c ∈ front, isInner c = true) ∧ ∀ c ∈ back, isInner c = true :=
  Text.exists_dropEnds isInner part

theorem mem_of_mem_trimWord (h : c ∈ trimWord part) : c ∈ part := by
  obtain ⟨front, back, heq, _, _⟩ := exists_trimWord part
  rw [heq]
  exact List.mem_append_left _ (List.mem_append_right _ h)

theorem mem_trimWord (h : c ∈ part) (hc : isInner c = false) : c ∈ trimWord part := by
  obtain ⟨front, back, heq, hfront, hback⟩ := exists_trimWord part
  rw [heq] at h
  rcases List.mem_append.mp h with h | h
  · rcases List.mem_append.mp h with h | h
    · exact absurd (hfront c h) (Bool.eq_false_iff.mp hc)
    · exact h
  · exact absurd (hback c h) (Bool.eq_false_iff.mp hc)

theorem trimWord_eq_nil (h : ∀ c ∈ part, isInner c = true) : trimWord part = [] :=
  Text.dropEnds_eq_nil h

/-- Replacing characters one by one commutes with taking off, if it moves no apostrophe and no hyphen. -/
theorem trimWord_map {f : Char → Char} (hf : ∀ c, isInner (f c) = isInner c) (s : List Char) :
    trimWord (s.map f) = (trimWord s).map f := by
  have hdrop : ∀ s : List Char, (s.map f).dropWhile isInner = (s.dropWhile isInner).map f := by
    intro s
    rw [List.dropWhile_map]
    congr 2
    exact funext hf
  rw [trimWord, trimWord, Text.dropEnds, Text.dropEnds, hdrop, ← List.map_reverse, hdrop,
    List.map_reverse]

/-! ### Common words -/

theorem isStopWord_iff : isStopWord (String.ofList w) = true ↔
    ∃ stop ∈ stopWords, Text.lowercaseAux [] w = stop.toList := by
  rw [isStopWord, List.contains_iff_mem, Text.lowercase, String.toList_ofList]
  constructor
  · intro h
    exact ⟨_, h, String.toList_ofList.symm⟩
  · rintro ⟨stop, hstop, heq⟩
    rwa [heq, String.ofList_toList]

/-! ### Keywords -/

/-- Some part of the text is neither blank nor a common word. -/
def HasKeyword (s : List Char) : Prop :=
  ∃ part ∈ List.splitOnP (fun c => !isWordChar c) s,
    trimWord part ≠ [] ∧ isStopWord (String.ofList (trimWord part)) = false

theorem tokens_ne_nil_iff {text : String} : tokens text ≠ [] ↔ HasKeyword text.toList := by
  constructor
  · intro hne
    obtain ⟨token, htoken⟩ := List.exists_mem_of_ne_nil _ hne
    obtain ⟨word, hword, htoken⟩ := List.mem_filterMap.mp htoken
    obtain ⟨part, hpart, rfl⟩ := List.mem_map.mp hword
    split at htoken
    · cases htoken
    · rename_i hkept
      rw [Bool.or_eq_true, not_or, List.isEmpty_iff, Bool.not_eq_true] at hkept
      exact ⟨part, hpart, hkept⟩
  · rintro ⟨part, hpart, hne, hkept⟩
    refine List.ne_nil_of_mem
      (List.mem_filterMap.mpr ⟨trimWord part, List.mem_map_of_mem hpart, if_neg ?_⟩)
    rw [Bool.or_eq_true, not_or, List.isEmpty_iff, Bool.not_eq_true]
    exact ⟨hne, hkept⟩

theorem not_hasKeyword_nil : ¬ HasKeyword [] := by
  rintro ⟨part, hpart, hne, _⟩
  rw [List.mem_singleton.mp hpart] at hne
  exact hne rfl

theorem hasKeyword_append_cons (hc : isWordChar c = false) :
    HasKeyword (s ++ c :: t) ↔ HasKeyword s ∨ HasKeyword t := by
  have hsplit : List.splitOnP (fun c => !isWordChar c) (s ++ c :: t) =
      List.splitOnP (fun c => !isWordChar c) s ++ List.splitOnP (fun c => !isWordChar c) t :=
    List.splitOnP_append_cons s t (by rw [hc, Bool.not_false])
  simp only [HasKeyword, hsplit, List.mem_append, or_and_right, exists_or]

theorem hasKeyword_append_left (hfront : ∀ c ∈ front, isWordChar c = false) :
    HasKeyword (front ++ s) ↔ HasKeyword s := by
  induction front with
  | nil => rfl
  | cons c rest ih =>
    rw [List.cons_append, ← List.nil_append (c :: (rest ++ s)),
      hasKeyword_append_cons (hfront c List.mem_cons_self),
      ih fun d hd => hfront d (List.mem_cons_of_mem _ hd)]
    exact or_iff_right not_hasKeyword_nil

theorem hasKeyword_append_right (hback : ∀ c ∈ back, isWordChar c = false) :
    HasKeyword (s ++ back) ↔ HasKeyword s := by
  cases back with
  | nil => rw [List.append_nil]
  | cons c rest =>
    have hrest : ¬ HasKeyword rest := by
      rw [← List.append_nil rest,
        hasKeyword_append_left fun d hd => hback d (List.mem_cons_of_mem _ hd)]
      exact not_hasKeyword_nil
    rw [hasKeyword_append_cons (hback c List.mem_cons_self)]
    exact or_iff_left hrest

end Keywords

end SearchFilter
