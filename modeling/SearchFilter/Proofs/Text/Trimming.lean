import Mathlib.Data.List.DropRight
import SearchFilter.Text.Blank
/-!
# Taking characters off the ends of a text

Characters of one sort are taken off both ends of a text until other characters come up. What is left stands in the text between two runs of such characters and neither begins nor ends with one. Where the ends are known, so is what is left.

Words lose apostrophes and hyphens in this way, and texts blank characters.
-/

namespace SearchFilter

namespace Text

variable {p : Char → Bool} {s t front back w : List Char} {text : String}

theorem dropEnds_eq (p : Char → Bool) (s : List Char) :
    dropEnds p s = (s.dropWhile p).rdropWhile p := rfl

theorem exists_dropEnds (p : Char → Bool) (s : List Char) :
    ∃ front back, s = front ++ dropEnds p s ++ back ∧
      (∀ c ∈ front, p c = true) ∧ ∀ c ∈ back, p c = true := by
  refine ⟨s.takeWhile p, (s.dropWhile p).rtakeWhile p, ?_, fun c hc => List.mem_takeWhile_imp hc,
    fun c hc => List.mem_rtakeWhile_imp hc⟩
  rw [dropEnds_eq, List.append_assoc, List.rdropWhile_append_rtakeWhile,
    List.takeWhile_append_dropWhile]

theorem dropWhile_append_of_stop (hstop : ∀ c ∈ t.head?, p c = false) :
    (s ++ t).dropWhile p = s.dropWhile p ++ t := by
  have ht : t.dropWhile p = t := by
    cases t with
    | nil => rfl
    | cons c rest => exact List.dropWhile_cons_of_neg (Bool.eq_false_iff.mp (hstop c rfl))
  rw [List.dropWhile_append, ht]
  split
  · rename_i hs
    rw [List.isEmpty_iff.mp hs, List.nil_append]
  · rfl

/-- Around a stretch that neither begins nor ends with such characters, they are taken off either side by itself. -/
theorem dropEnds_append (hne : w ≠ []) (hhead : ∀ c ∈ w.head?, p c = false)
    (hlast : ∀ c ∈ w.getLast?, p c = false) (front back : List Char) :
    dropEnds p (front ++ w ++ back) = front.dropWhile p ++ w ++ back.rdropWhile p := by
  have hfront : (front ++ (w ++ back)).dropWhile p = front.dropWhile p ++ (w ++ back) := by
    refine dropWhile_append_of_stop fun c hc => hhead c ?_
    rwa [List.head?_append_of_ne_nil _ hne] at hc
  have hback : (back.reverse ++ (w.reverse ++ (front.dropWhile p).reverse)).dropWhile p =
      back.reverse.dropWhile p ++ (w.reverse ++ (front.dropWhile p).reverse) := by
    refine dropWhile_append_of_stop fun c hc => hlast c ?_
    rwa [List.head?_append_of_ne_nil _ (by simp [hne]), List.head?_reverse] at hc
  rw [List.append_assoc, dropEnds_eq, hfront, List.rdropWhile, List.rdropWhile]
  simp only [List.reverse_append, List.append_assoc, hback, List.reverse_reverse]

theorem head?_dropEnds (p : Char → Bool) (s : List Char) :
    ∀ c ∈ (dropEnds p s).head?, p c = false := by
  intro c hc
  have hhead : (s.dropWhile p).head? = some c := by
    rw [← List.rdropWhile_append_rtakeWhile (p := p) (l := s.dropWhile p), List.head?_append,
      ← dropEnds_eq, hc, Option.some_or]
  have hstop := List.head?_dropWhile_not p s
  rw [hhead] at hstop
  simpa using hstop

theorem getLast?_dropEnds (p : Char → Bool) (s : List Char) :
    ∀ c ∈ (dropEnds p s).getLast?, p c = false := by
  intro c hc
  obtain ⟨hne, rfl⟩ := List.mem_getLast?_eq_getLast hc
  exact Bool.eq_false_iff.mpr (List.rdropWhile_last_not p (s.dropWhile p) hne)

theorem dropEnds_eq_nil (h : ∀ c ∈ s, p c = true) : dropEnds p s = [] := by
  rw [dropEnds_eq, List.dropWhile_eq_nil_iff.mpr h, List.rdropWhile_nil]

/-! ### Blank characters -/

theorem exists_trim (text : String) : ∃ front back, text.toList = front ++ (trim text).toList ++ back ∧
    (∀ c ∈ front, isBlank c = true) ∧ ∀ c ∈ back, isBlank c = true := by
  rw [trim, String.toList_ofList]
  exact exists_dropEnds isBlank text.toList

theorem toList_trim (htext : text.toList = front ++ w ++ back) (hw : ∀ c ∈ w, isBlank c = false)
    (hfront : ∀ c ∈ front, isBlank c = true) (hback : ∀ c ∈ back, isBlank c = true) :
    (trim text).toList = w := by
  rw [trim, String.toList_ofList, htext]
  by_cases hne : w = []
  · refine (dropEnds_eq_nil fun c hc => ?_).trans hne.symm
    rw [hne, List.append_nil] at hc
    exact (List.mem_append.mp hc).elim (hfront c) (hback c)
  · rw [dropEnds_append hne (fun c hc => hw c (List.mem_of_mem_head? hc))
      (fun c hc => hw c (List.mem_of_mem_getLast? hc)), List.rdropWhile_eq_nil_iff.mpr hback,
      List.dropWhile_eq_nil_iff.mpr hfront, List.nil_append, List.append_nil]

theorem trim_eq_self (h : ∀ c ∈ text.toList, isBlank c = false) : trim text = text := by
  have hsplit : text.toList = [] ++ text.toList ++ [] := by simp
  have hlist : (trim text).toList = text.toList := toList_trim hsplit h (by simp) (by simp)
  rw [← String.ofList_toList (s := trim text), hlist, String.ofList_toList]

end Text

end SearchFilter
