import Mathlib
import SearchFilter.Identifier
/-!
# Default names of tables

An entity whose name is made of letters, digits and underscores, without a digit in front, gets a table whose name is made of the same characters without capitals. So the name of the table is valid unless it is too long, and it can be: each capital takes an underscore with it, and the plural takes up to three characters.

The underscores that are put in stand between a character other than an underscore and a small letter, and the endings of the plural have none. So two underscores stand side by side in the name of the table exactly if they do in that of the entity.
-/

namespace SearchFilter

namespace Identifier

variable {s : List Char} {c : Char}

/-! ### Spelling -/

/-- Letters, digits and underscores with no digit in front, in any number but none. -/
structure Spelled (s : List Char) : Prop where
  first : ∃ c, s.head? = some c ∧ isFirst c = true
  inner : ∀ c ∈ s, isInner c = true

theorem spelled_cons_iff {rest : List Char} :
    Spelled (c :: rest) ↔ isFirst c = true ∧ ∀ d ∈ rest, isInner d = true := by
  constructor
  · intro h
    exact ⟨by simpa using h.first, fun d hd => h.inner d (List.mem_cons_of_mem c hd)⟩
  · intro ⟨hfirst, hrest⟩
    exact ⟨⟨c, rfl, hfirst⟩, by simpa [isInner, hfirst] using hrest⟩

theorem Spelled.exists_cons (h : Spelled s) : ∃ c rest, s = c :: rest := by
  obtain ⟨c, hhead, _⟩ := h.first
  exact ⟨c, List.head?_eq_some_iff.mp hhead⟩

theorem isValid_iff {name : String} :
    isValid name = true ↔ Spelled name.toList ∧ name.length ≤ 63 := by
  rw [isValid, ← String.length_toList]
  cases name.toList with
  | nil => exact iff_of_false Bool.false_ne_true fun h => by simpa using h.1.first
  | cons c rest => simp [isValidChars, spelled_cons_iff, maxLength]

/-! ### Small letters -/

/-- A character is a capital and becomes a small letter, or it stays as it is. -/
theorem toLower_cases (c : Char) :
    (c ≠ '_' ∧ isFirst c.toLower = true ∧ c.toLower ≠ '_') ∨ c.toLower = c := by
  by_cases hupper : c.isUpper = true
  · have hletter : c.toLower.isAlpha = true := by
      rw [Char.isAlpha_toLower_eq_isAlpha, Char.isAlpha, hupper, Bool.true_or]
    refine .inl ⟨?_, by rw [isFirst, hletter, Bool.true_or], fun hunderscore => ?_⟩
    · rintro rfl
      exact absurd hupper (by decide)
    · rw [hunderscore] at hletter
      exact absurd hletter (by decide)
  · exact .inr (Char.toLower_eq_of_not_isUpper hupper)

theorem isFirst_toLower (h : isFirst c = true) : isFirst c.toLower = true := by
  rcases toLower_cases c with ⟨_, hfirst, _⟩ | hsame
  · exact hfirst
  · rwa [hsame]

theorem isInner_toLower (h : isInner c = true) : isInner c.toLower = true := by
  rcases toLower_cases c with ⟨_, hfirst, _⟩ | hsame
  · simp [isInner, hfirst]
  · rwa [hsame]

theorem toLower_eq_underscore_iff : c.toLower = '_' ↔ c = '_' := by
  rcases toLower_cases c with ⟨hne, _, hlower⟩ | hsame
  · simp [hne, hlower]
  · rw [hsame]

/-! ### Underscores side by side -/

def HasDouble (s : List Char) : Prop := ['_', '_'] <:+: s

theorem hasDouble_cons_iff {rest : List Char} :
    HasDouble (c :: rest) ↔ (c = '_' ∧ rest.head? = some '_') ∨ HasDouble rest := by
  rw [HasDouble, List.infix_cons_iff, List.cons_prefix_cons]
  cases rest with
  | nil => simp [HasDouble]
  | cons d rest => simp [HasDouble, List.cons_prefix_cons, eq_comm]

theorem hasDouble_append_iff {ending : List Char} (h : '_' ∉ ending) :
    HasDouble (s ++ ending) ↔ HasDouble s := by
  have hhead : ending.head? ≠ some '_' := fun hhead => h (List.mem_of_head? hhead)
  induction s with
  | nil =>
    have hnone : ¬ HasDouble ending := fun hpart => h (hpart.subset (by simp))
    simpa [HasDouble] using hnone
  | cons c s ih =>
    have hnext : (s ++ ending).head? = some '_' ↔ s.head? = some '_' := by
      cases s <;> simp [hhead]
    rw [List.cons_append, hasDouble_cons_iff, hasDouble_cons_iff, hnext]
    exact or_congr_right ih

/-! ### Words between underscores -/

/-- A character is written in small, with an underscore in front if it is a capital behind something else than an underscore. -/
theorem snakeCase_cons (before : Option Char) (c : Char) (rest : List Char) :
    snakeCase before (c :: rest) =
      (if c.isUpper && before.any (· ≠ '_') then ['_'] else []) ++
        c.toLower :: snakeCase (some c.toLower) rest := by
  by_cases hupper : c.isUpper = true
  · cases before with
    | none => simp [snakeCase, hupper]
    | some d =>
      by_cases hd : d = '_'
      · simp [snakeCase, hupper, hd]
      · simp [snakeCase, hupper, hd]
  · have hsame : c.toLower = c := Char.toLower_eq_of_not_isUpper hupper
    simp [snakeCase, hupper, hsame]

theorem inner_of_mem_snakeCase {before : Option Char} (h : ∀ c ∈ s, isInner c = true) :
    ∀ d ∈ snakeCase before s, isInner d = true ∧ d.isUpper = false := by
  induction s generalizing before with
  | nil => simp [snakeCase]
  | cons c rest ih =>
    rw [List.forall_mem_cons] at h
    rw [snakeCase_cons, List.forall_mem_append, List.forall_mem_cons]
    refine ⟨fun d hd => ?_, ⟨isInner_toLower h.1, Char.isUpper_toLower_eq_false c⟩, ih h.2⟩
    obtain rfl : d = '_' := by
      split at hd
      · exact List.mem_singleton.mp hd
      · exact absurd hd List.not_mem_nil
    decide

theorem spelled_snakeCase (h : Spelled s) : Spelled (snakeCase none s) := by
  obtain ⟨c, rest, rfl⟩ := h.exists_cons
  rw [spelled_cons_iff] at h
  have hhead : snakeCase none (c :: rest) = c.toLower :: snakeCase (some c.toLower) rest := by
    simp [snakeCase_cons]
  rw [hhead, spelled_cons_iff]
  exact ⟨isFirst_toLower h.1, fun d hd => (inner_of_mem_snakeCase h.2 d hd).1⟩

/-- The character in front is read as well, because the first underscore that is put in depends on it. -/
theorem hasDouble_snakeCase_iff (before : Option Char) :
    HasDouble (before.toList ++ snakeCase before s) ↔ HasDouble (before.toList ++ s) := by
  induction s generalizing before with
  | nil => simp [snakeCase]
  | cons c rest ih =>
    have hrest : HasDouble (c.toLower :: snakeCase (some c.toLower) rest) ↔ HasDouble (c :: rest) := by
      have hnext := ih (some c.toLower)
      simp only [Option.toList_some, List.singleton_append] at hnext
      rw [hnext, hasDouble_cons_iff, hasDouble_cons_iff, toLower_eq_underscore_iff]
    rw [snakeCase_cons]
    cases before with
    | none => simpa using hrest
    | some d =>
      split
      · rename_i hput
        obtain ⟨hupper, hd⟩ : c.isUpper = true ∧ d ≠ '_' := by simpa using hput
        have hc : c.toLower ≠ '_' := by
          rw [Ne, toLower_eq_underscore_iff]
          rintro rfl
          exact absurd hupper (by decide)
        simp [hasDouble_cons_iff (c := d), hasDouble_cons_iff (c := '_'), hd, hc, hrest]
      · simp [hasDouble_cons_iff (c := d), hrest, toLower_eq_underscore_iff]

/-! ### The plural -/

/-- A name and its plural: an ending is put behind the name, or in place of its last letter. -/
inductive Plural : List Char → List Char → Prop
  | s (stem : List Char) : Plural stem (stem ++ ['s'])
  | es (stem : List Char) : Plural stem (stem ++ ['e', 's'])
  | ies (stem : List Char) : Plural (stem ++ ['y']) (stem ++ ['i', 'e', 's'])

theorem plural_pluralReversed (back : List Char) :
    Plural back.reverse (pluralReversed back).reverse := by
  have hs : ∀ stem : List Char, Plural stem.reverse ('s' :: stem).reverse := fun stem => by
    rw [List.reverse_cons]
    exact .s _
  have hes : ∀ stem : List Char, Plural stem.reverse ('s' :: 'e' :: stem).reverse := fun stem => by
    simpa using Plural.es stem.reverse
  have hies : ∀ stem : List Char,
      Plural ('y' :: stem).reverse ('s' :: 'e' :: 'i' :: stem).reverse := fun stem => by
    simpa using Plural.ies stem.reverse
  fun_cases pluralReversed back with
  | case1 => exact hs []
  | case2 => exact hies []
  | case3 c stem => exact hs _
  | case4 c stem => exact hies _
  | case5 stem => exact hes _
  | case6 stem => exact hes _
  | case7 stem => exact hes _
  | case8 stem => exact hes _
  | case9 => exact hs _

theorem Plural.forall_mem {t : List Char} {P : Char → Prop} (hplural : Plural s t)
    (h : ∀ c ∈ s, P c) (hi : P 'i') (he : P 'e') (hs : P 's') : ∀ c ∈ t, P c := by
  cases hplural with
  | s => exact List.forall_mem_append.mpr ⟨h, by simpa using hs⟩
  | es => exact List.forall_mem_append.mpr ⟨h, by simpa using ⟨he, hs⟩⟩
  | ies stem =>
    exact List.forall_mem_append.mpr ⟨(List.forall_mem_append.mp h).1, by simpa using ⟨hi, he, hs⟩⟩

theorem Plural.spelled {t : List Char} (hplural : Plural s t) (h : Spelled s) : Spelled t := by
  refine ⟨?_, hplural.forall_mem h.inner (by decide) (by decide) (by decide)⟩
  obtain ⟨c, hhead, hfirst⟩ := h.first
  cases hplural with
  | s | es => exact ⟨c, by simp [hhead], hfirst⟩
  | ies stem =>
    cases stem with
    | nil => exact ⟨'i', rfl, by decide⟩
    | cons d stem => exact ⟨c, hhead, hfirst⟩

theorem Plural.hasDouble_iff {t : List Char} (hplural : Plural s t) : HasDouble t ↔ HasDouble s := by
  cases hplural with
  | s => exact hasDouble_append_iff (by decide)
  | es => exact hasDouble_append_iff (by decide)
  | ies stem => rw [hasDouble_append_iff (by decide), hasDouble_append_iff (by decide)]

/-! ### Tables -/

theorem plural_defaultTable (entity : String) :
    Plural (snakeCase none entity.toList) (defaultTable entity).toList := by
  have hplural := plural_pluralReversed (snakeCase none entity.toList).reverse
  rwa [List.reverse_reverse, ← String.toList_ofList (l := (pluralReversed _).reverse)] at hplural

/-- The name of the table is made of small letters, digits and underscores, is valid exactly if it is not too long, and has two underscores side by side exactly if the name of the entity has. -/
theorem isValid_defaultTable (entity : String) (h : Spelled entity.toList) :
    (∀ c ∈ (defaultTable entity).toList, isInner c = true ∧ c.isUpper = false) ∧
    (isValid (defaultTable entity) = true ↔ (defaultTable entity).length ≤ 63) ∧
    (['_', '_'] <:+: (defaultTable entity).toList ↔ ['_', '_'] <:+: entity.toList) := by
  have hplural := plural_defaultTable entity
  refine ⟨hplural.forall_mem (inner_of_mem_snakeCase h.inner) (by decide) (by decide) (by decide),
    ?_, ?_⟩
  · rw [isValid_iff]
    exact and_iff_right (hplural.spelled (spelled_snakeCase h))
  · exact hplural.hasDouble_iff.trans (hasDouble_snakeCase_iff none)

/-- Two underscores that stand side by side stay, also in front of a capital, and a y behind an underscore is taken for one behind a consonant. -/
theorem isValid_defaultTable_box : Spelled "_Box__DayY".toList ∧
    (∀ c ∈ "_box__day_ies".toList, isInner c = true ∧ c.isUpper = false) ∧
    (isValid "_box__day_ies" = true ↔ "_box__day_ies".length ≤ 63) ∧
    (['_', '_'] <:+: "_box__day_ies".toList ↔ ['_', '_'] <:+: "_Box__DayY".toList) := by
  have hspelled : Spelled "_Box__DayY".toList := ⟨⟨'_', by decide⟩, List.all_eq_true.mp (by decide)⟩
  have htable : defaultTable "_Box__DayY" = "_box__day_ies" := by decide +kernel
  rw [← htable]
  exact ⟨hspelled, isValid_defaultTable _ hspelled⟩

/-- A name of thirty-two capitals gets a table whose name is too long by one character. -/
example : (defaultTable "ABCDEFGHIJKLMNOPQRSTUVWXYZABCDEF").length = 64 := by decide +kernel

end Identifier

end SearchFilter
