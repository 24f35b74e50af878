/-!
# Pairs looked up by name

A list of pairs of a name and something is a table in which the first pair of a name counts.
-/

namespace SearchFilter

theorem lookup_cons_eq_ite {β : Type} (other first : String) (b : β) (rest : List (String × β)) :
    ((first, b) :: rest).lookup other = if other = first then some b else rest.lookup other := by
  rw [List.lookup_cons]
  by_cases h : other = first
  · rw [if_pos h, beq_iff_eq.mpr h]
  · rw [if_neg h, beq_eq_false_iff_ne.mpr h]

theorem lookup_append_names {β : Type} (pairs : List (String × β)) (given : List String) (b : β)
    (name : String) :
    (pairs ++ given.map (fun name => (name, b))).lookup name =
      (pairs.lookup name).or (if name ∈ given then some b else none) := by
  rw [List.lookup_append]
  congr 1
  induction given with
  | nil => rfl
  | cons first rest ih =>
    rw [List.map_cons, lookup_cons_eq_ite, ih]
    by_cases hsame : name = first
    · simp [hsame]
    · simp [hsame]

theorem lookup_filter_of_ne {β : Type} (pairs : List (String × β)) {name dropped : String}
    (h : name ≠ dropped) :
    (pairs.filter fun (other, _) => other ≠ dropped).lookup name = pairs.lookup name := by
  induction pairs with
  | nil => rfl
  | cons first rest ih =>
    obtain ⟨other, b⟩ := first
    rw [lookup_cons_eq_ite, List.filter_cons]
    by_cases hother : other = dropped
    · simpa [hother, h] using ih
    · simp only [hother, ne_eq, not_false_eq_true, decide_true, if_true]
      rw [lookup_cons_eq_ite]
      exact congrArg _ ih

end SearchFilter
