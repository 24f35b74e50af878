import SearchFilter.Proofs.Fragment.Clauses
/-!
# Question marks and bound values

A fragment is balanced when it binds as many values as its template has question marks. Values are matched with question marks from the left, so this alone does not say that a value belongs to the clause it was bound for. It does where everything in front of the clause is balanced, too: `Balanced.owns_iff` shows that a question mark stands in a clause if and only if the value it is matched with is one of the values of that clause.

Nothing here depends on what clauses say. Pieces without question marks and without values are balanced, joining keeps balance, and a conjunction consists of its clauses and such pieces.
-/

namespace SearchFilter

namespace Fragment

def placeholders (f : Fragment) : Nat := f.template.toList.count '?'

def Balanced (f : Fragment) : Prop := f.placeholders = f.binds.length

/-- A question mark stands at a position of the template. -/
def MarkAt (f : Fragment) (p : Nat) : Prop := f.template.toList[p]? = some '?'

/-- The question marks in front of a position. A question mark at the position is matched with the value of this index. -/
def ordinal (f : Fragment) (p : Nat) : Nat := (f.template.toList.take p).count '?'

/-! ### Balance of parts and of the whole -/

theorem placeholders_append (f g : Fragment) :
    (f ++ g).placeholders = f.placeholders + g.placeholders := by
  simp only [placeholders, append_template, String.toList_append, List.count_append]

theorem balanced_empty : empty.Balanced := rfl

theorem balanced_text {s : String} (h : '?' ∉ s.toList) : (text s).Balanced := by
  have hcount : s.toList.count '?' = 0 := List.count_eq_zero.mpr h
  exact hcount

theorem Balanced.append {f g : Fragment} (hf : f.Balanced) (hg : g.Balanced) :
    (f ++ g).Balanced := by
  unfold Balanced at *
  rw [placeholders_append, append_binds, List.length_append, hf, hg]

theorem Balanced.parenthesized {f : Fragment} (h : f.Balanced) : f.parenthesized.Balanced := by
  have hopen : (text "(").Balanced := balanced_text (by decide)
  have hclose : (text ")").Balanced := balanced_text (by decide)
  rw [parenthesized_eq]
  exact (hopen.append h).append hclose

theorem balanced_and : (text " AND ").Balanced := balanced_text (by decide)

theorem balanced_leading {clauses : List Fragment} (h : ∀ clause ∈ clauses, clause.Balanced) :
    (leading clauses).Balanced := by
  induction clauses with
  | nil => exact balanced_empty
  | cons clause rest ih =>
    have hclause := h clause List.mem_cons_self
    have hrest := ih fun other hother => h other (List.mem_cons_of_mem _ hother)
    exact (hclause.append balanced_and).append hrest

theorem balanced_trailing {clauses : List Fragment} (h : ∀ clause ∈ clauses, clause.Balanced) :
    (trailing clauses).Balanced := by
  induction clauses with
  | nil => exact balanced_empty
  | cons clause rest ih =>
    have hclause := h clause List.mem_cons_self
    have hrest := ih fun other hother => h other (List.mem_cons_of_mem _ hother)
    exact (balanced_and.append hclause).append hrest

theorem balanced_conjunction {clauses : List Fragment} (h : ∀ clause ∈ clauses, clause.Balanced) :
    (conjunction clauses).Balanced := by
  cases clauses with
  | nil => exact balanced_empty
  | cons clause rest =>
    rw [conjunction_cons]
    have hclause := h clause List.mem_cons_self
    exact hclause.append (balanced_trailing fun other hother =>
      h other (List.mem_cons_of_mem _ hother))

/-! ### Which value a question mark is matched with -/

theorem lt_length_iff_count_take_lt {α : Type} [DecidableEq α] {before after : List α} {a : α}
    {p : Nat} (h : (before ++ after)[p]? = some a) :
    p < before.length ↔ ((before ++ after).take p).count a < before.count a := by
  rw [List.take_append, List.count_append]
  by_cases hp : p < before.length
  · have hget : before[p]? = some a := by rwa [List.getElem?_append_left hp] at h
    have hmem : a ∈ before.drop p :=
      List.mem_of_getElem? (i := 0) (by rw [List.getElem?_drop, Nat.add_zero, hget])
    have hsplit : before.count a = (before.take p).count a + (before.drop p).count a := by
      rw [← List.count_append, List.take_append_drop]
    have hpositive : 0 < (before.drop p).count a := List.count_pos_iff.mpr hmem
    have hnone : after.take (p - before.length) = [] := by
      rw [Nat.sub_eq_zero_of_le (by omega), List.take_zero]
    rw [hnone, List.count_nil]
    omega
  · rw [List.take_of_length_le (Nat.le_of_not_lt hp)]
    omega

theorem ordinal_lt_iff {f g : Fragment} (hf : f.Balanced) {p : Nat} (hp : (f ++ g).MarkAt p) :
    p < f.template.length ↔ (f ++ g).ordinal p < f.binds.length := by
  unfold MarkAt at hp
  unfold ordinal
  rw [append_template, String.toList_append] at hp ⊢
  rw [← String.length_toList, ← hf]
  exact lt_length_iff_count_take_lt hp

/-- A question mark stands in a clause exactly if it is matched with a value of the clause. -/
theorem Balanced.owns_iff {left clause right : Fragment} (hleft : left.Balanced)
    (hclause : clause.Balanced) {p : Nat} (hp : (left ++ clause ++ right).MarkAt p) :
    (left.template.length ≤ p ∧ p < left.template.length + clause.template.length) ↔
      (left.binds.length ≤ (left ++ clause ++ right).ordinal p ∧
        (left ++ clause ++ right).ordinal p < left.binds.length + clause.binds.length) := by
  have hend := ordinal_lt_iff (hleft.append hclause) hp
  rw [append_template, String.length_append, append_binds, List.length_append] at hend
  have hstart : p < left.template.length ↔
      (left ++ clause ++ right).ordinal p < left.binds.length := by
    rw [append_assoc] at hp ⊢
    exact ordinal_lt_iff hleft hp
  omega

end Fragment

end SearchFilter
