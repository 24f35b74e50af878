import Mathlib.Data.List.Infix
import SearchFilter.Proofs.Fragment.Clauses
import SearchFilter.Proofs.Text.Parts
/-!
# Groups in templates

A group is what stands between an opening parenthesis and the closing one, and it is empty if the two stand side by side. Putting texts together makes an empty group only where one text ends with an opening parenthesis and the next begins with a closing one. `Solid` texts do neither, have no empty group, and are not empty themselves. Texts put together from solid ones are solid, and so is a solid text in parentheses.
-/

namespace SearchFilter

namespace Text

variable {s t : String}

/-- Somewhere two parentheses have nothing between them. -/
def HasEmptyGroup (s : String) : Prop := ['(', ')'] <:+: s.toList

instance (s : String) : Decidable (HasEmptyGroup s) :=
  inferInstanceAs (Decidable (['(', ')'] <:+: s.toList))

theorem hasEmptyGroup_append_iff : HasEmptyGroup (s ++ t) ↔
    HasEmptyGroup s ∨ HasEmptyGroup t ∨
      s.toList.getLast? = some '(' ∧ t.toList.head? = some ')' := by
  unfold HasEmptyGroup
  rw [String.toList_append, List.infix_append_iff]
  constructor
  · rintro (hs | ht | ⟨opening, closing, heq, ⟨front, hfront⟩, ⟨back, hback⟩⟩)
    · exact .inl hs
    · exact .inr (.inl ht)
    · -- the two characters lie in one of the texts, or the cut is between them
      rcases opening with _ | ⟨c, _ | ⟨d, rest⟩⟩
      · rw [List.nil_append] at heq
        exact .inr (.inl ⟨[], back, by rw [← hback, heq, List.nil_append]⟩)
      · cases heq
        exact .inr (.inr ⟨List.getLast?_eq_some_iff.mpr ⟨front, hfront.symm⟩,
          List.head?_eq_some_iff.mpr ⟨back, hback.symm⟩⟩)
      · rw [List.cons_append, List.cons_append, List.cons.injEq, List.cons.injEq] at heq
        obtain ⟨rfl, rfl, hnil⟩ := heq
        rw [(List.nil_eq_append_iff.mp hnil).1] at hfront
        exact .inl ⟨front, [], by rw [← hfront, List.append_nil]⟩
  · rintro (hs | ht | ⟨hlast, hhead⟩)
    · exact .inl hs
    · exact .inr (.inl ht)
    · obtain ⟨front, hfront⟩ := List.getLast?_eq_some_iff.mp hlast
      obtain ⟨back, hback⟩ := List.head?_eq_some_iff.mp hhead
      exact .inr (.inr ⟨['('], [')'], rfl, ⟨front, hfront.symm⟩, ⟨back, hback.symm⟩⟩)

/-- Not empty, without empty groups, and none arises where the text meets another one of its sort. -/
structure Solid (s : String) : Prop where
  nonempty : s ≠ ""
  head : s.toList.head? ≠ some ')'
  last : s.toList.getLast? ≠ some '('
  free : ¬ HasEmptyGroup s

instance (s : String) : Decidable (Solid s) :=
  decidable_of_iff (s ≠ "" ∧ s.toList.head? ≠ some ')' ∧ s.toList.getLast? ≠ some '(' ∧
      ¬ HasEmptyGroup s)
    ⟨fun ⟨nonempty, head, last, free⟩ => ⟨nonempty, head, last, free⟩,
      fun ⟨nonempty, head, last, free⟩ => ⟨nonempty, head, last, free⟩⟩

theorem solid_of_not_mem (hne : s ≠ "") (hopen : '(' ∉ s.toList) (hclose : ')' ∉ s.toList) :
    Solid s where
  nonempty := hne
  head hhead := hclose (List.mem_of_mem_head? hhead)
  last hlast := hopen (List.mem_of_mem_getLast? hlast)
  free h := hopen (h.subset List.mem_cons_self)

theorem toList_ne_nil (h : s ≠ "") : s.toList ≠ [] := fun hnil => h (String.toList_eq_nil_iff.mp hnil)

theorem Solid.append (hs : Solid s) (ht : Solid t) : Solid (s ++ t) where
  nonempty h := by
    have hnil : (s ++ t).toList = [] := by rw [h]; rfl
    rw [String.toList_append] at hnil
    exact toList_ne_nil hs.nonempty (List.append_eq_nil_iff.mp hnil).1
  head := by
    rw [String.toList_append, List.head?_append_of_ne_nil _ (toList_ne_nil hs.nonempty)]
    exact hs.head
  last := by
    rw [String.toList_append, List.getLast?_append_of_ne_nil _ (toList_ne_nil ht.nonempty)]
    exact ht.last
  free h := by
    rcases hasEmptyGroup_append_iff.mp h with h | h | ⟨hlast, _⟩
    · exact hs.free h
    · exact ht.free h
    · exact hs.last hlast

theorem Solid.parenthesized (h : Solid s) : Solid ("(" ++ s ++ ")") where
  nonempty := by
    intro heq
    have hnil : ("(" ++ s ++ ")").toList = [] := by rw [heq]; rfl
    simp at hnil
  head := by simp
  last := by
    rw [String.toList_append, List.getLast?_append_of_ne_nil _ (by decide)]
    decide
  free hgroup := by
    rcases hasEmptyGroup_append_iff.mp hgroup with hgroup | hgroup | ⟨hlast, _⟩
    · rcases hasEmptyGroup_append_iff.mp hgroup with hgroup | hgroup | ⟨_, hhead⟩
      · exact absurd hgroup (by decide)
      · exact h.free hgroup
      · exact h.head hhead
    · exact absurd hgroup (by decide)
    · rw [String.toList_append,
        List.getLast?_append_of_ne_nil _ (toList_ne_nil h.nonempty)] at hlast
      exact h.last hlast

theorem composes_solid : Composes Solid := ⟨Solid.append, Solid.parenthesized⟩

end Text

namespace Fragment

open Text

theorem solid_conjunction {clauses : List Fragment} (hne : clauses ≠ [])
    (h : ∀ clause ∈ clauses, Solid clause.template) : Solid (conjunction clauses).template := by
  refine composes_solid.intercalate (by decide) (by simp [hne]) fun text htext => ?_
  obtain ⟨clause, hclause, rfl⟩ := List.mem_map.mp htext
  exact h clause hclause

theorem hasEmptyGroup_append {left clause right : Fragment} (h : HasEmptyGroup clause.template) :
    HasEmptyGroup (left ++ clause ++ right).template := by
  rw [append_template, append_template, hasEmptyGroup_append_iff, hasEmptyGroup_append_iff]
  exact .inl (.inr (.inl h))

theorem not_hasEmptyGroup_of_isEmpty {f : Fragment} (h : f.isEmpty = true) :
    ¬ HasEmptyGroup f.template := by
  rw [isEmpty, String.isEmpty_iff] at h
  rw [h]
  decide

theorem hasEmptyGroup_parenthesized {f : Fragment} (h : HasEmptyGroup f.template) :
    HasEmptyGroup f.parenthesized.template := by
  rw [parenthesized_eq]
  exact hasEmptyGroup_append h

end Fragment

end SearchFilter
