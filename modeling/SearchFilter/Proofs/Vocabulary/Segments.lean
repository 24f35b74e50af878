import Mathlib.Data.List.Basic
import SearchFilter.Vocabulary
import SearchFilter.Proofs.Text.Parts
/-!
# Segments of names

A name is the same as the list of its segments, and putting names together with an underscore puts their segments together. So questions about names that begin alike become questions about lists that begin alike, and `cut_flatMap_append` answers those: a list that begins the segments of some tokens and a rest ends between two tokens, inside a token, or inside the rest.
-/

namespace SearchFilter

namespace Vocabulary

def segmentsOf (name : String) : List String := segments name.toList

theorem segmentsOf_ne_nil (name : String) : segmentsOf name ≠ [] := by
  unfold segmentsOf segments
  rw [Ne, List.map_eq_nil_iff]
  exact List.splitOn_ne_nil _ _

theorem segments_append (before after : List Char) :
    segments (before ++ '_' :: after) = segments before ++ segments after := by
  unfold segments
  rw [List.splitOn_append_cons_self, List.map_append]

theorem segmentsOf_append (first second : String) :
    segmentsOf (first ++ "_" ++ second) = segmentsOf first ++ segmentsOf second := by
  have hchars : (first ++ "_" ++ second).toList = first.toList ++ '_' :: second.toList := by simp
  rw [segmentsOf, hchars, segments_append]
  rfl

theorem segmentsOf_of_mem {name : List Char} {segment : String} (h : segment ∈ segments name) :
    segmentsOf segment = [segment] := by
  obtain ⟨part, hpart, rfl⟩ := List.mem_map.mp h
  unfold segmentsOf segments
  rw [List.splitOn_eq_splitOnP] at hpart ⊢
  rw [String.toList_ofList, List.splitOnP_eq_singleton (Text.not_separates_of_mem_splitOnP hpart)]
  rfl

/-! ### Joining -/

theorem segmentsOf_join {names : List String} (h : names ≠ []) :
    segmentsOf ("_".intercalate names) = names.flatMap segmentsOf := by
  induction names with
  | nil => exact absurd rfl h
  | cons first rest ih =>
    by_cases hrest : rest = []
    · rw [hrest, String.intercalate_singleton, List.flatMap_singleton]
    · rw [String.intercalate_cons_of_ne_nil hrest, segmentsOf_append, ih hrest, List.flatMap_cons]

theorem join_segments (name : List Char) : "_".intercalate (segments name) = String.ofList name := by
  have hid : String.toList ∘ String.ofList = id := funext fun _ => String.toList_ofList
  have hunderscore : "_".toList = ['_'] := rfl
  rw [← String.toList_inj, String.toList_intercalate, segments, List.map_map, hid, List.map_id,
    hunderscore, List.intercalate_splitOn, String.toList_ofList]

theorem join_segmentsOf (name : String) : "_".intercalate (segmentsOf name) = name := by
  rw [segmentsOf, join_segments, String.ofList_toList]

theorem segmentsOf_injective : Function.Injective segmentsOf := by
  intro first second h
  rw [← join_segmentsOf first, h, join_segmentsOf]

theorem segmentsOf_join_segments {parts : List String}
    (h : ∀ part ∈ parts, segmentsOf part = [part]) (hparts : parts ≠ []) :
    segmentsOf ("_".intercalate parts) = parts := by
  calc segmentsOf ("_".intercalate parts)
      = parts.flatMap segmentsOf := segmentsOf_join hparts
    _ = parts.flatMap (fun part => [part]) := List.flatMap_congr h
    _ = parts := List.flatMap_singleton' parts

/-! ### Where a beginning ends -/

/-- The beginning of the segments of some tokens and a rest ends between two tokens, inside a token, or inside the rest. -/
theorem cut_flatMap_append {tokens rest front back : List String}
    (h : tokens.flatMap segmentsOf ++ rest = front ++ back) :
    (∃ before after, tokens = before ++ after ∧ front = before.flatMap segmentsOf ∧
      back = after.flatMap segmentsOf ++ rest) ∨
    (∃ before token after left right, tokens = before ++ token :: after ∧
      segmentsOf token = left ++ right ∧ left ≠ [] ∧ right ≠ [] ∧
      front = before.flatMap segmentsOf ++ left ∧
      back = right ++ (after.flatMap segmentsOf ++ rest)) ∨
    (∃ left, left ≠ [] ∧ rest = left ++ back ∧ front = tokens.flatMap segmentsOf ++ left) := by
  induction tokens generalizing front with
  | nil =>
    by_cases hfront : front = []
    · exact .inl ⟨[], [], rfl, hfront, by simpa [hfront] using h.symm⟩
    · exact .inr (.inr ⟨front, hfront, h, rfl⟩)
  | cons token tokens ih =>
    rw [List.flatMap_cons, List.append_assoc] at h
    rcases List.append_eq_append_iff.mp h with ⟨front', rfl, hrest⟩ | ⟨right, htoken, hback⟩
    · -- the beginning covers the first token
      rcases ih hrest with ⟨before, after, rfl, rfl, hback⟩ |
        ⟨before, other, after, left, right, rfl, hother, hleft, hright, rfl, hback⟩ |
        ⟨left, hleft, hsuffix, rfl⟩
      · exact .inl ⟨token :: before, after, rfl, rfl, hback⟩
      · refine .inr (.inl ⟨token :: before, other, after, left, right, rfl, hother, hleft,
          hright, ?_, hback⟩)
        rw [List.flatMap_cons, List.append_assoc]
      · refine .inr (.inr ⟨left, hleft, hsuffix, ?_⟩)
        rw [List.flatMap_cons, List.append_assoc]
    · by_cases hfront : front = []
      · refine .inl ⟨[], token :: tokens, rfl, hfront, ?_⟩
        rw [hback, List.flatMap_cons, htoken, hfront, List.nil_append, List.append_assoc]
      · by_cases hright : right = []
        · refine .inl ⟨[token], tokens, rfl, ?_, ?_⟩
          · rw [List.flatMap_singleton, htoken, hright, List.append_nil]
          · rw [hback, hright, List.nil_append]
        · exact .inr (.inl ⟨[], token, tokens, front, right, rfl, htoken, hfront, hright, rfl,
            hback⟩)

end Vocabulary

end SearchFilter
