import SearchFilter.Proofs.ConditionTree.Pairs
/-!
# What untrusted input can do

Untrusted input does two things to a tree: it changes conditions that the policy permits, and it follows relationships that the policy permits and goes on below. `Filled` says so without the input. Whatever holds of these two steps and of chains of them holds of bulk input into a protected tree, and only this module has to look at how input is applied.
-/

namespace SearchFilter

namespace ConditionTree

/-- The second tree is the first one after permitted changes of conditions, at the top and below permitted relationships. -/
inductive Filled (catalog : Catalog) : ConditionTree → ConditionTree → Prop
  | refl (tree : ConditionTree) : Filled catalog tree tree
  | trans {tree tree' tree'' : ConditionTree} (h : Filled catalog tree tree')
      (h' : Filled catalog tree' tree'') : Filled catalog tree tree''
  | conditions {tree : ConditionTree} {conditions : List (ConditionKey × Value)}
      (h : ∀ name, tree.vocabulary.policy.permits name = false →
        valueOf? name conditions = valueOf? name tree.conditions) :
      Filled catalog tree { tree with conditions }
  | inside {tree child child' : ConditionTree} {name : String}
      (hpermitted : tree.vocabulary.policy.permits name = true)
      (hchild : tree.relation catalog name = .ok child) (h : Filled catalog child child') :
      Filled catalog tree (tree.withChild name child')

variable {catalog : Catalog} {tree tree' : ConditionTree} {name : String}

/-! ### Conditions -/

theorem valueOf?_store_of_ne {key : ConditionKey} {v : Value} (h : key.name ≠ name)
    (conditions : List (ConditionKey × Value)) :
    valueOf? name (store key v conditions) = valueOf? name conditions := by
  induction conditions with
  | nil => simp [store, valueOf?, h]
  | cons pair rest ih =>
    obtain ⟨other, w⟩ := pair
    rw [store]
    by_cases hother : other.name = key.name
    · have hne : other.name ≠ name := fun heq => h (hother.symm.trans heq)
      rw [if_pos hother, valueOf?, valueOf?, if_neg hne, if_neg hne]
    · rw [if_neg hother, valueOf?, valueOf?, ih]

theorem valueOf?_unset_of_ne {key : ConditionKey} (h : key.name ≠ name) (tree : ConditionTree) :
    valueOf? name (tree.unset key).conditions = valueOf? name tree.conditions := by
  unfold unset
  dsimp only
  induction tree.conditions with
  | nil => rfl
  | cons pair rest ih =>
    obtain ⟨other, w⟩ := pair
    by_cases hother : other.name = key.name
    · have hne : other.name ≠ name := fun heq => h (hother.symm.trans heq)
      rw [List.filter_cons_of_neg (by simp [hother]), ih, valueOf?, if_neg hne]
    · rw [List.filter_cons_of_pos (by simp [hother]), valueOf?, valueOf?, ih]

theorem ne_of_permits {policy : Policy} {other : String} (h : policy.permits name = true)
    (hdenied : policy.permits other = false) : name ≠ other := by
  rintro rfl
  cases h.symm.trans hdenied

theorem filled_unset {key : ConditionKey}
    (hpermitted : tree.vocabulary.policy.permits key.name = true) :
    Filled catalog tree (tree.unset key) := by
  refine .conditions fun name hdenied => ?_
  exact valueOf?_unset_of_ne (ne_of_permits hpermitted hdenied) tree

theorem assign_filled {key : ConditionKey} {v : Value}
    (hpermitted : tree.vocabulary.policy.permits key.name = true)
    (h : tree.assign catalog key v = .ok tree') : Filled catalog tree tree' := by
  unfold assign at h
  split at h
  · cases h
    exact filled_unset hpermitted
  · split at h
    · cases h
      refine .conditions fun name hdenied => ?_
      exact valueOf?_store_of_ne (ne_of_permits hpermitted hdenied) tree.conditions
    · cases h

theorem applyCondition_filled {params : Params}
    (h : tree.applyCondition catalog true name params = .ok tree') : Filled catalog tree tree' := by
  obtain ⟨key, _, h⟩ := Outcome.bind_eq_ok_iff.mp h
  split at h
  · cases h
    exact .refl tree
  · rename_i hwithheld
    have hpermitted := permits_of_not_withholds hwithheld
    split at h
    · cases h
    · split at h
      · cases h
        exact filled_unset hpermitted
      · exact assign_filled hpermitted h
    · exact assign_filled hpermitted h

/-! ### Bulk input -/

theorem applyValue_filled {v : Value} (h : tree.applyValue true v = .ok tree') :
    Filled catalog tree tree' := by
  unfold applyValue at h
  split at h
  · cases h
    exact .refl tree
  · rw [if_pos rfl] at h
    cases h
  · cases h

/-- Whatever a tree below says about itself, what comes from above stays untrusted. -/
theorem inputRelation_filled : InputRelation catalog (fun _ => True)
    (fun untrusted tree tree' => untrusted = true → Filled catalog tree tree') where
  parts _ _ := trivial
  refl _ tree _ := .refl tree
  trans h h' huntrusted := .trans (h huntrusted) (h' huntrusted)
  weaken h huntrusted := h (by rw [huntrusted, Bool.true_or])
  value _ h huntrusted := by
    subst huntrusted
    exact applyValue_filled h
  condition _ h huntrusted := by
    subst huntrusted
    exact applyCondition_filled h
  below hwithheld hchild h huntrusted := by
    subst huntrusted
    exact .inside (permits_of_not_withholds hwithheld) hchild (h rfl)

theorem applyParams_filled (params : Params) {untrusted : Bool} {tree tree' : ConditionTree}
    (huntrusted : (untrusted || tree.isProtected) = true)
    (h : applyParams catalog untrusted params tree = .ok tree') : Filled catalog tree tree' := by
  have hsame : applyParams catalog true params tree = .ok tree' := by
    cases params with
    | mapping pairs | value v =>
      rw [applyParams] at h ⊢
      rwa [huntrusted] at h
  exact inputRelation_filled.applyParams params trivial hsame rfl

theorem apply_filled {params : Params} (hprotected : tree.isProtected = true)
    (h : tree.apply catalog params = .ok tree') : Filled catalog tree tree' :=
  applyParams_filled params ((Bool.false_or _).trans hprotected) h

end ConditionTree

end SearchFilter
