import Mathlib.Data.List.Sort
import SearchFilter.Text.Order
/-!
# Parts, order and joined texts

What later proofs need of splitting at separators: the parts have no separators in them, and all other characters are in some part. Sorting by a key is the library's insertion sort, so it only changes the order. Last, joined texts have what their parts have, if putting texts together keeps it.
-/

namespace SearchFilter

namespace Text

/-! ### Splitting -/

section Splitting

variable {separates : Char → Bool} {s part : List Char} {c : Char}

/-- A text has no separators, or a first one with such a text in front of it. -/
@[elab_as_elim]
theorem partsInduction (separates : Char → Bool) {motive : List Char → Prop}
    (last : ∀ part, (∀ c ∈ part, separates c = false) → motive part)
    (next : ∀ part c rest, (∀ c ∈ part, separates c = false) → separates c = true → motive rest →
      motive (part ++ c :: rest)) (s : List Char) : motive s := by
  -- for the induction the beginning of the part is known already
  have hpart : ∀ part : List Char, (∀ c ∈ part, separates c = false) → motive (part ++ s) := by
    induction s with
    | nil =>
      intro part hpart
      rw [List.append_nil]
      exact last part hpart
    | cons c rest ih =>
      intro part hpart
      by_cases hc : separates c = true
      · exact next part c rest hpart hc (ih [] (by simp))
      · rw [List.append_cons]
        exact ih (part ++ [c]) (List.forall_mem_append.mpr ⟨hpart, by simpa using hc⟩)
  exact hpart [] (by simp)

theorem not_separates_of_mem_splitOnP (h : part ∈ s.splitOnP separates) :
    ∀ c ∈ part, separates c = false := by
  induction s using partsInduction separates with
  | last s hs =>
    rw [List.splitOnP_eq_singleton hs, List.mem_singleton] at h
    rwa [h]
  | next front d back hfront hd ih =>
    rw [List.splitOnP_append_cons_of_forall_mem hfront d hd] at h
    rcases List.mem_cons.mp h with rfl | h
    · exact hfront
    · exact ih h

theorem mem_of_mem_splitOnP (hpart : part ∈ s.splitOnP separates) (hc : c ∈ part) : c ∈ s := by
  induction s using partsInduction separates with
  | last s hs =>
    rw [List.splitOnP_eq_singleton hs] at hpart
    rwa [← List.mem_singleton.mp hpart]
  | next front d back hfront hd ih =>
    rw [List.splitOnP_append_cons_of_forall_mem hfront d hd] at hpart
    rcases List.mem_cons.mp hpart with rfl | hpart
    · exact List.mem_append_left _ hc
    · exact List.mem_append_right _ (List.mem_cons_of_mem _ (ih hpart))

theorem exists_part_of_mem (hc : c ∈ s) (hplain : separates c = false) :
    ∃ part ∈ s.splitOnP separates, c ∈ part := by
  induction s using partsInduction separates with
  | last s hs =>
    rw [List.splitOnP_eq_singleton hs]
    exact ⟨s, List.mem_singleton.mpr rfl, hc⟩
  | next front d back hfront hd ih =>
    rw [List.splitOnP_append_cons_of_forall_mem hfront d hd]
    rcases List.mem_append.mp hc with hc | hc
    · exact ⟨front, List.mem_cons_self, hc⟩
    · rcases List.mem_cons.mp hc with rfl | hc
      · rw [hplain] at hd
        cases hd
      · obtain ⟨part, hpart, hmem⟩ := ih hc
        exact ⟨part, List.mem_cons_of_mem _ hpart, hmem⟩

end Splitting

/-! ### Sorting -/

theorem sortByKey_eq_insertionSort {α : Type} (key : α → String) (l : List α) :
    sortByKey key l = l.insertionSort fun a b => key a ≤ key b := by
  induction l with
  | nil => rfl
  | cons a rest ih =>
    rw [List.insertionSort_cons_eq_take_drop, ← ih]
    simp only [String.not_le]
    rfl

theorem sortByKey_perm {α : Type} (key : α → String) (l : List α) : (sortByKey key l).Perm l := by
  rw [sortByKey_eq_insertionSort]
  exact List.perm_insertionSort _ l

/-! ### Putting together -/

/-- Texts keep the property when they are put side by side and when they are put in parentheses. -/
structure Composes (P : String → Prop) : Prop where
  append : ∀ {s t : String}, P s → P t → P (s ++ t)
  parenthesized : ∀ {s : String}, P s → P ("(" ++ s ++ ")")

theorem Composes.intercalate {P : String → Prop} (hP : Composes P) {separator : String}
    (hseparator : P separator) {parts : List String} (hne : parts ≠ [])
    (hparts : ∀ part ∈ parts, P part) : P (separator.intercalate parts) := by
  induction parts with
  | nil => exact absurd rfl hne
  | cons part rest ih =>
    have hpart := hparts part List.mem_cons_self
    by_cases hrest : rest = []
    · rwa [hrest, String.intercalate_singleton]
    · rw [String.intercalate_cons_of_ne_nil hrest]
      exact hP.append (hP.append hpart hseparator)
        (ih hrest fun other hother => hparts other (List.mem_cons_of_mem _ hother))

end Text

end SearchFilter
