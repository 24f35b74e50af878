import SearchFilter.Kind.Operation
import SearchFilter.Proofs.Keywords.Words
/-!
# The keywords of a text

`IsKeyword` says what all keywords have in common, and `Occur` that some texts stand in another one behind another. The keywords of a text are such texts, and there are no other keywords before, between or behind them.

A keyword has no separators in it and nothing to take off its ends, so the only keyword that it has is itself. Written with spaces between them, keywords are therefore read back as they are. Wildcards belong to no word, so what is searched for is the word and nothing else.
-/

namespace SearchFilter

namespace Keywords

variable {c : Char} {s t part gap : List Char} {w text : String} {words : List String}

/-! ### Keywords and where they stand -/

structure IsKeyword (w : String) : Prop where
  ne_nil : w.toList ≠ []
  mem : ∀ c ∈ w.toList, Text.isAlphanumeric c = true ∨ c = '\x27' ∨ c = '-'
  first : ∀ c ∈ w.toList.head?, Text.isAlphanumeric c = true
  last : ∀ c ∈ w.toList.getLast?, Text.isAlphanumeric c = true
  uncommon : Text.lowercase w ∉ stopWords

/-- The words stand in the text in this order and without overlapping, and what is left of it has no keywords. -/
inductive Occur : List String → List Char → Prop
  | nil {gap : List Char} (hgap : ¬ HasKeyword gap) : Occur [] gap
  | cons {gap rest : List Char} {word : String} {words : List String} (hgap : ¬ HasKeyword gap)
      (h : Occur words rest) : Occur (word :: words) (gap ++ word.toList ++ rest)

theorem isInner_of_isAlphanumeric (h : Text.isAlphanumeric c = true) : isInner c = false := by
  have hinner : Text.isAlphanumeric '\x27' = false ∧ Text.isAlphanumeric '-' = false := by
    decide +kernel
  by_contra hc
  rcases eq_of_isInner (Bool.not_eq_false _ ▸ hc) with rfl | rfl
  · exact absurd h (by simp [hinner.1])
  · exact absurd h (by simp [hinner.2])

theorem isWordChar_iff :
    isWordChar c = true ↔ Text.isAlphanumeric c = true ∨ c = '\x27' ∨ c = '-' := by
  simp [isWordChar, isInner]

theorem isAlphanumeric_of_not_isInner (h : isWordChar c = true) (hc : isInner c = false) :
    Text.isAlphanumeric c = true := by
  rwa [isWordChar, hc, Bool.or_false] at h

theorem IsKeyword.wildcard_free (h : IsKeyword w) : '%' ∉ w.toList ∧ '_' ∉ w.toList := by
  have hwild : isWordChar '%' = false ∧ isWordChar '_' = false := by decide +kernel
  constructor
  · intro hmem
    exact absurd (isWordChar_iff.mpr (h.mem _ hmem)) (by simp [hwild.1])
  · intro hmem
    exact absurd (isWordChar_iff.mpr (h.mem _ hmem)) (by simp [hwild.2])

/-! ### The keyword of a part -/

/-- What is left of a part between two separators, if it is a keyword. -/
def keyword? (part : List Char) : Option String :=
  if (trimWord part).isEmpty || isStopWord (String.ofList (trimWord part)) then none
  else some (String.ofList (trimWord part))

def keywordsOf (s : List Char) : List String :=
  (List.splitOnP (fun c => !isWordChar c) s).filterMap keyword?

theorem tokens_eq (text : String) : tokens text = keywordsOf text.toList := by
  rw [tokens, List.filterMap_map]
  rfl

theorem keyword?_eq_some_iff : keyword? part = some w ↔
    trimWord part ≠ [] ∧ isStopWord (String.ofList (trimWord part)) = false ∧
      String.ofList (trimWord part) = w := by
  unfold keyword?
  split
  · rename_i hdropped
    simp only [Bool.or_eq_true, List.isEmpty_iff] at hdropped
    simp only [reduceCtorEq, false_iff]
    rintro ⟨hne, hcommon, _⟩
    exact hdropped.elim hne fun h => Bool.eq_false_iff.mp hcommon h
  · rename_i hkept
    simp only [Bool.or_eq_true, not_or, List.isEmpty_iff, Bool.not_eq_true] at hkept
    simp [hkept]

theorem isKeyword_of_keyword? (hpart : ∀ c ∈ part, isWordChar c = true)
    (h : keyword? part = some w) : IsKeyword w := by
  obtain ⟨hne, hcommon, rfl⟩ := keyword?_eq_some_iff.mp h
  have hword : ∀ c ∈ trimWord part, isWordChar c = true :=
    fun c hc => hpart c (mem_of_mem_trimWord hc)
  refine ⟨?_, fun c hc => ?_, fun c hc => ?_, fun c hc => ?_, ?_⟩
  · rwa [String.toList_ofList]
  · rw [String.toList_ofList] at hc
    exact isWordChar_iff.mp (hword c hc)
  · rw [String.toList_ofList] at hc
    exact isAlphanumeric_of_not_isInner (hword c (List.mem_of_mem_head? hc))
      (Text.head?_dropEnds isInner part c hc)
  · rw [String.toList_ofList] at hc
    exact isAlphanumeric_of_not_isInner (hword c (List.mem_of_mem_getLast? hc))
      (Text.getLast?_dropEnds isInner part c hc)
  · simpa [isStopWord] using hcommon

theorem keyword?_of_isKeyword (h : IsKeyword w) : keyword? w.toList = some w := by
  have htrim : trimWord w.toList = w.toList := by
    have hends := trimWord_append h.ne_nil (fun c hc => isInner_of_isAlphanumeric (h.first c hc))
      (fun c hc => isInner_of_isAlphanumeric (h.last c hc)) [] []
    simpa using hends
  refine keyword?_eq_some_iff.mpr ⟨?_, ?_, ?_⟩
  · rw [htrim]
    exact h.ne_nil
  · rw [htrim, String.ofList_toList]
    simpa [isStopWord] using h.uncommon
  · rw [htrim, String.ofList_toList]

/-! ### The keywords of a text -/

theorem keywordsOf_append_cons (hc : isWordChar c = false) :
    keywordsOf (s ++ c :: t) = keywordsOf s ++ keywordsOf t := by
  have hsplit : List.splitOnP (fun c => !isWordChar c) (s ++ c :: t) =
      List.splitOnP (fun c => !isWordChar c) s ++ List.splitOnP (fun c => !isWordChar c) t :=
    List.splitOnP_append_cons s t (by rw [hc, Bool.not_false])
  rw [keywordsOf, hsplit, List.filterMap_append]
  rfl

theorem keywordsOf_part (hpart : ∀ c ∈ part, isWordChar c = true) :
    keywordsOf part = (keyword? part).toList := by
  have hsplit : List.splitOnP (fun c => !isWordChar c) part = [part] :=
    List.splitOnP_eq_singleton fun c hc => by rw [hpart c hc, Bool.not_true]
  rw [keywordsOf, hsplit]
  cases h : keyword? part with
  | none => simp [h]
  | some w => simp [h]

theorem hasKeyword_part_iff (hpart : ∀ c ∈ part, isWordChar c = true) :
    HasKeyword part ↔ keyword? part ≠ none := by
  have hsplit : List.splitOnP (fun c => !isWordChar c) part = [part] :=
    List.splitOnP_eq_singleton fun c hc => by rw [hpart c hc, Bool.not_true]
  rw [HasKeyword, hsplit, Option.ne_none_iff_exists']
  simp [keyword?_eq_some_iff]

theorem not_hasKeyword_of_isInner (hgap : ∀ c ∈ gap, isInner c = true) : ¬ HasKeyword gap := by
  rw [hasKeyword_part_iff fun c hc => isWordChar_of_isInner (hgap c hc), not_not]
  simp [keyword?, trimWord_eq_nil hgap]

theorem isKeyword_of_mem_tokens (h : w ∈ tokens text) : IsKeyword w := by
  rw [tokens_eq] at h
  obtain ⟨part, hpart, hword⟩ := List.mem_filterMap.mp h
  refine isKeyword_of_keyword? (fun c hc => ?_) hword
  have hseparates := Text.not_separates_of_mem_splitOnP hpart c hc
  rwa [Bool.not_eq_false'] at hseparates

/-- A part without keywords and a separator may stand in front. -/
theorem Occur.prepend (hgap : ¬ HasKeyword gap) (hc : isWordChar c = false) (h : Occur words s) :
    Occur words (gap ++ c :: s) := by
  cases h with
  | nil hrest =>
    refine .nil fun hmem => ?_
    exact ((hasKeyword_append_cons hc).mp hmem).elim hgap hrest
  | @cons between rest word words hbetween h =>
    have hsplit : gap ++ c :: (between ++ word.toList ++ rest) =
        gap ++ c :: between ++ word.toList ++ rest := by simp
    rw [hsplit]
    refine .cons (fun hmem => ?_) h
    exact ((hasKeyword_append_cons hc).mp hmem).elim hgap hbetween

/-- Around the keyword of a part there are no others. -/
theorem exists_of_keyword? (h : keyword? part = some w) :
    ∃ front back, part = front ++ w.toList ++ back ∧ ¬ HasKeyword front ∧ ¬ HasKeyword back := by
  obtain ⟨_, _, rfl⟩ := keyword?_eq_some_iff.mp h
  obtain ⟨front, back, hpart, hfront, hback⟩ := exists_trimWord part
  refine ⟨front, back, ?_, not_hasKeyword_of_isInner hfront, not_hasKeyword_of_isInner hback⟩
  rwa [String.toList_ofList]

theorem occur_keywordsOf (s : List Char) : Occur (keywordsOf s) s := by
  induction s using Text.partsInduction fun c => !isWordChar c with
  | last part hpart =>
    simp only [Bool.not_eq_false'] at hpart
    rw [keywordsOf_part hpart]
    cases hword : keyword? part with
    | none => exact .nil fun hmem => (hasKeyword_part_iff hpart).mp hmem hword
    | some w =>
      obtain ⟨front, back, rfl, hfront, hback⟩ := exists_of_keyword? hword
      exact .cons hfront (.nil hback)
  | next part c rest hpart hc ih =>
    simp only [Bool.not_eq_false'] at hpart
    rw [Bool.not_eq_true'] at hc
    rw [keywordsOf_append_cons hc, keywordsOf_part hpart]
    cases hword : keyword? part with
    | none => exact ih.prepend (fun hmem => (hasKeyword_part_iff hpart).mp hmem hword) hc
    | some w =>
      obtain ⟨front, back, rfl, hfront, hback⟩ := exists_of_keyword? hword
      rw [List.append_assoc]
      exact .cons hfront (ih.prepend hback hc)

theorem tokens_join (h : ∀ w ∈ words, IsKeyword w) : tokens (" ".intercalate words) = words := by
  induction words with
  | nil => rfl
  | cons w rest ih =>
    rw [List.forall_mem_cons] at h
    have hword : keywordsOf w.toList = [w] := by
      rw [keywordsOf_part fun c hc => isWordChar_iff.mpr (h.1.mem c hc), keyword?_of_isKeyword h.1]
      rfl
    by_cases hrest : rest = []
    · rw [hrest, String.intercalate_singleton, tokens_eq, hword]
    · have hspace : isWordChar ' ' = false := isWordChar_of_isBlank (by decide)
      have hsplit : (" ".intercalate (w :: rest)).toList =
          w.toList ++ ' ' :: (" ".intercalate rest).toList := by
        simp [String.intercalate_cons_of_ne_nil hrest]
      rw [tokens_eq, hsplit, keywordsOf_append_cons hspace, hword, ← tokens_eq, ih h.2]
      rfl

end Keywords

theorem Operation.keywords_binds (column : String) (v : Value) :
    (keywords.compile column v).binds =
      (Keywords.tokens v.searchText).map fun word => .string ("%" ++ word ++ "%") := by
  rw [compile, Fragment.conjunction, List.flatMap_map]
  exact List.map_eq_flatMap.symm

namespace Keywords

/-- The keywords of a text stand in it in their order, have nothing in them that separates words or is a wildcard, and are read back as they are. A search binds each of them between two wildcards. -/
theorem tokens_clean (text : String) :
    (∀ w ∈ tokens text, IsKeyword w) ∧ Occur (tokens text) text.toList ∧
    tokens (" ".intercalate (tokens text)) = tokens text ∧
    ∀ column v, v.searchText = text →
      (Operation.keywords.compile column v).binds =
        (tokens text).map (fun w => .string ("%" ++ w ++ "%")) ∧
      ∀ w ∈ tokens text, '%' ∉ w.toList ∧ '_' ∉ w.toList := by
  have hkeywords : ∀ w ∈ tokens text, IsKeyword w := fun w hw => isKeyword_of_mem_tokens hw
  refine ⟨hkeywords, ?_, tokens_join hkeywords, fun column v hv => ⟨?_, fun w hw => ?_⟩⟩
  · rw [tokens_eq]
    exact occur_keywordsOf text.toList
  · rw [Operation.keywords_binds, hv]
  · exact (hkeywords w hw).wildcard_free

/-- Quotes, a comma, a common word and an apostrophe inside a word. -/
theorem tokens_clean_fox : ∃ w ∈ tokens "The quick, 'brown' fox's", IsKeyword w ∧
    tokens "The quick, 'brown' fox's" = ["quick", "brown", "fox's"] ∧
    Occur ["quick", "brown", "fox's"] "The quick, 'brown' fox's".toList ∧
    tokens "quick brown fox's" = ["quick", "brown", "fox's"] ∧
    ∃ v : Value, v.searchText = "The quick, 'brown' fox's" ∧
      (Operation.keywords.compile "title" v).binds =
        (tokens "The quick, 'brown' fox's").map (fun w => .string ("%" ++ w ++ "%")) ∧
      '%' ∉ w.toList := by
  have htokens : tokens "The quick, 'brown' fox's" = ["quick", "brown", "fox's"] := by
    decide +kernel
  have hmem : "fox's" ∈ tokens "The quick, 'brown' fox's" := by simp [htokens]
  obtain ⟨hkeywords, hoccur, hstable, hbinds⟩ := tokens_clean "The quick, 'brown' fox's"
  rw [htokens] at hoccur hstable
  obtain ⟨hbinds, hwild⟩ := hbinds "title" (.string "The quick, 'brown' fox's") rfl
  exact ⟨"fox's", hmem, hkeywords _ hmem, htokens, hoccur, hstable, _, rfl, hbinds,
    (hwild _ hmem).1⟩

end Keywords

end SearchFilter
