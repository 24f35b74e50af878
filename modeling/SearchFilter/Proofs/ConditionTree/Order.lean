import SearchFilter.Proofs.ConditionTree.EntryPoints
import SearchFilter.Proofs.ConditionTree.Places
/-!
# The order of conditions and relationships

Conditions stand in the order in which they became active and relationships in the order in which they were first followed. What a change does to these orders says so: names that are still there afterwards keep their order, and names that were not there come behind all of them. A name that was given up and comes back is new.

One application of input may make a condition inactive and active again, so for conditions the statement is about input with a single pair. Input with several pairs is applied one pair after the other.
-/

namespace SearchFilter

namespace ConditionTree

/-- The names that stay come first, in the order that they had. -/
def KeepsOrder (before after : List String) : Prop := before.filter (· ∈ after) <+: after

variable {catalog : Catalog} {tree tree' child : ConditionTree} {name : String}
  {key : ConditionKey} {v : Value} {names names' : List String}

theorem keepsOrder_of_prefix (h : names <+: names') : KeepsOrder names names' := by
  have hall : names.filter (· ∈ names') = names :=
    List.filter_eq_self.mpr fun name hmem => decide_eq_true (h.subset hmem)
  rw [KeepsOrder, hall]
  exact h

theorem keepsOrder_refl (names : List String) : KeepsOrder names names :=
  keepsOrder_of_prefix (List.prefix_refl names)

theorem keepsOrder_filter (names : List String) (p : String → Bool) :
    KeepsOrder names (names.filter p) := by
  have hsame : names.filter (· ∈ names.filter p) = names.filter p := by
    refine List.filter_congr fun name hmem => ?_
    simp [hmem]
  exact ⟨[], (List.append_nil _).trans hsame⟩

theorem keepsOrder_nil (names : List String) : KeepsOrder names [] := by
  simp [KeepsOrder]

/-! ### What assignments and pairs can do -/

theorem assign_cases (h : tree.assign catalog key v = .ok tree') :
    tree' = tree.unset key ∨
      ∃ w, tree' = { tree with conditions := store key w tree.conditions } := by
  unfold assign at h
  split at h
  · cases h
    exact .inl rfl
  · split at h
    · cases h
      exact .inr ⟨_, rfl⟩
    · cases h

/-- A pair changes nothing, the tree of the relationship that it names or one condition. -/
theorem applyPair_cases {untrusted : Bool} {pair : String × Params}
    (h : applyPair catalog untrusted pair tree = .ok tree') :
    tree' = tree ∨ (∃ child, tree' = tree.withChild pair.1 child) ∨
      (∃ key, tree' = tree.unset key) ∨
      ∃ key w, tree' = { tree with conditions := store key w tree.conditions } := by
  have hassign : ∀ {key v}, tree.assign catalog key v = .ok tree' →
      (∃ key, tree' = tree.unset key) ∨
        ∃ key w, tree' = { tree with conditions := store key w tree.conditions } :=
    fun {key _} h => (assign_cases h).imp (⟨key, ·⟩) (⟨key, ·⟩)
  unfold applyPair at h
  split at h
  · split at h
    · obtain ⟨_, _, h⟩ := Outcome.bind_eq_ok_iff.mp h
      obtain ⟨_, _, h⟩ := Outcome.bind_eq_ok_iff.mp h
      cases h
      exact .inl rfl
    · obtain ⟨_, _, h⟩ := Outcome.bind_eq_ok_iff.mp h
      obtain ⟨_, _, h⟩ := Outcome.bind_eq_ok_iff.mp h
      cases h
      exact .inr (.inl ⟨_, rfl⟩)
  · obtain ⟨key, _, h⟩ := Outcome.bind_eq_ok_iff.mp h
    split at h
    · cases h
      exact .inl rfl
    · split at h
      · cases h
      · split at h
        · cases h
          exact .inr (.inr (.inl ⟨key, rfl⟩))
        · exact .inr (.inr (hassign h))
      · exact .inr (.inr (hassign h))

/-! ### Relationships -/

def followedNames (tree : ConditionTree) : List String := tree.relations.map (·.1)

theorem followedNames_withChild (tree : ConditionTree) (name : String) (child : ConditionTree) :
    tree.followedNames <+: (tree.withChild name child).followedNames := by
  rw [followedNames, followedNames, withChild, names_putChild]
  split
  · exact List.prefix_refl _
  · exact List.prefix_append _ _

theorem applyPair_followedNames {untrusted : Bool} {pair : String × Params}
    (h : applyPair catalog untrusted pair tree = .ok tree') :
    tree.followedNames <+: tree'.followedNames := by
  rcases applyPair_cases h with rfl | ⟨child, rfl⟩ | ⟨key, rfl⟩ | ⟨key, w, rfl⟩
  · exact List.prefix_refl _
  · exact followedNames_withChild tree pair.1 child
  · exact List.prefix_refl _
  · exact List.prefix_refl _

theorem applyPairs_followedNames {untrusted : Bool} {pairs : List (String × Params)}
    (h : applyPairs catalog untrusted pairs tree = .ok tree') :
    tree.followedNames <+: tree'.followedNames := by
  induction pairs generalizing tree with
  | nil =>
    rw [applyPairs_nil] at h
    cases h
    exact List.prefix_refl _
  | cons pair rest ih =>
    rw [applyPairs_cons] at h
    obtain ⟨next, hpair, hrest⟩ := Outcome.bind_eq_ok_iff.mp h
    exact (applyPair_followedNames hpair).trans (ih hrest)

theorem setScope_eq_ok {scope : String} (h : tree.setScope scope = .ok tree') :
    tree' = { tree with
      scope := if scope.toList.all Text.isBlank then none else some scope } := by
  unfold setScope at h
  split at h
  · cases h
  · split at h
    · rename_i hblank
      cases h
      rw [if_pos hblank]
    · rename_i htext
      split at h
      · cases h
      · cases h
        rw [if_neg htext]

theorem setScope_lists {scope : String} (h : tree.setScope scope = .ok tree') :
    tree'.conditions = tree.conditions ∧ tree'.relations = tree.relations := by
  rw [setScope_eq_ok h]
  exact ⟨rfl, rfl⟩

theorem applyValue_lists {untrusted : Bool} (h : tree.applyValue untrusted v = .ok tree') :
    tree'.conditions = tree.conditions ∧ tree'.relations = tree.relations := by
  unfold applyValue at h
  split at h
  · cases h
    exact ⟨rfl, rfl⟩
  · split at h
    · cases h
    · exact setScope_lists h
  · cases h

theorem forget_followedNames (tree : ConditionTree) (name : String) :
    KeepsOrder tree.followedNames
      { tree with relations := tree.relations.filter fun (other, _) => other ≠ name }.followedNames := by
  have hfilter : { tree with
      relations := tree.relations.filter fun (other, _) => other ≠ name }.followedNames =
        tree.followedNames.filter (· ≠ name) := by
    rw [followedNames, followedNames, List.filter_map]
    rfl
  rw [hfilter]
  exact keepsOrder_filter _ _

theorem run_followedNames {change : Change} (h : change.run catalog tree = .ok tree') :
    KeepsOrder tree.followedNames tree'.followedNames := by
  cases change with
  | set name v =>
    obtain ⟨key, _, h⟩ := Outcome.bind_eq_ok_iff.mp h
    rcases assign_cases h with rfl | ⟨w, rfl⟩ <;> exact keepsOrder_refl _
  | reset name =>
    have hreset : tree.reset name = .ok tree' := h
    unfold reset at hreset
    split at hreset
    · cases hreset
      exact forget_followedNames tree name
    · obtain ⟨key, _, rfl⟩ := Outcome.map_eq_ok_iff.mp hreset
      exact keepsOrder_refl _
  | resetAll =>
    cases h
    exact keepsOrder_nil _
  | follow name =>
    obtain ⟨child, _, rfl⟩ := Outcome.map_eq_ok_iff.mp h
    exact keepsOrder_of_prefix (followedNames_withChild tree name child)
  | setScope scope =>
    rw [followedNames, followedNames, (setScope_lists h).2]
    exact keepsOrder_refl _
  | clearScope | setProtected =>
    cases h
    exact keepsOrder_refl _
  | apply params =>
    have happly : applyParams catalog false params tree = .ok tree' := h
    refine keepsOrder_of_prefix ?_
    cases params with
    | mapping pairs =>
      rw [applyParams] at happly
      exact applyPairs_followedNames happly
    | value v =>
      rw [applyParams] at happly
      have hsame := (applyValue_lists happly).2
      exact ⟨[], (List.append_nil _).trans (congrArg (·.map (·.1)) hsame.symm)⟩

/-- Whatever is done to a tree or below it, its relationships stand in the order in which they were first followed. -/
theorem followedNames_runAt (path : List String) (change : Change) (tree : ConditionTree) :
    KeepsOrder tree.followedNames (change.runAt catalog path tree).1.followedNames :=
  Change.runAt_induction (R := fun tree tree' => KeepsOrder tree.followedNames tree'.followedNames)
    (fun _ => keepsOrder_refl _)
    (fun _ _ => keepsOrder_of_prefix (followedNames_withChild _ _ _)) run_followedNames path tree

/-! ### Conditions -/

def ownNames (tree : ConditionTree) : List String := activeNames tree.conditions

theorem ownNames_unset (key : ConditionKey) (tree : ConditionTree) :
    KeepsOrder tree.ownNames (tree.unset key).ownNames := by
  have hfilter : (tree.unset key).ownNames = tree.ownNames.filter (· ≠ key.name) := by
    rw [ownNames, ownNames, activeNames, activeNames, unset, List.filter_map]
    rfl
  rw [hfilter]
  exact keepsOrder_filter _ _

theorem ownNames_store (key : ConditionKey) (w : Value) (tree : ConditionTree) :
    KeepsOrder tree.ownNames
      { tree with conditions := store key w tree.conditions }.ownNames := by
  refine keepsOrder_of_prefix ?_
  rw [ownNames, ownNames, activeNames_store]
  split
  · exact List.prefix_refl _
  · exact List.prefix_append _ _

theorem ownNames_assign (h : tree.assign catalog key v = .ok tree') :
    KeepsOrder tree.ownNames tree'.ownNames := by
  rcases assign_cases h with rfl | ⟨w, rfl⟩
  · exact ownNames_unset key tree
  · exact ownNames_store key w tree

theorem ownNames_applyPair {untrusted : Bool} {pair : String × Params}
    (h : applyPair catalog untrusted pair tree = .ok tree') :
    KeepsOrder tree.ownNames tree'.ownNames := by
  rcases applyPair_cases h with rfl | ⟨child, rfl⟩ | ⟨key, rfl⟩ | ⟨key, w, rfl⟩
  · exact keepsOrder_refl _
  · exact keepsOrder_refl _
  · exact ownNames_unset key tree
  · exact ownNames_store key w tree

def Single : Change → Prop
  | .apply (.mapping pairs) => pairs.length ≤ 1
  | _ => True

theorem run_ownNames {change : Change} (hsingle : Single change)
    (h : change.run catalog tree = .ok tree') : KeepsOrder tree.ownNames tree'.ownNames := by
  cases change with
  | set name v =>
    obtain ⟨key, _, h⟩ := Outcome.bind_eq_ok_iff.mp h
    exact ownNames_assign h
  | reset name =>
    have hreset : tree.reset name = .ok tree' := h
    unfold reset at hreset
    split at hreset
    · cases hreset
      exact keepsOrder_refl _
    · obtain ⟨key, _, rfl⟩ := Outcome.map_eq_ok_iff.mp hreset
      exact ownNames_unset key tree
  | resetAll =>
    cases h
    exact keepsOrder_nil _
  | follow name =>
    obtain ⟨child, _, rfl⟩ := Outcome.map_eq_ok_iff.mp h
    exact keepsOrder_refl _
  | setScope scope =>
    rw [ownNames, ownNames, (setScope_lists h).1]
    exact keepsOrder_refl _
  | clearScope | setProtected =>
    cases h
    exact keepsOrder_refl _
  | apply params =>
    cases params with
    | mapping pairs =>
      rcases pairs with _ | ⟨⟨name, params⟩, _ | ⟨next, rest⟩⟩
      · have hnone : applyParams catalog false (.mapping []) tree = .ok tree' := h
        rw [applyParams, applyPairs_nil] at hnone
        cases hnone
        exact keepsOrder_refl _
      · have hpair : tree.apply catalog (.mapping [(name, params)]) = .ok tree' := h
        rw [apply_singleton] at hpair
        exact ownNames_applyPair hpair
      · exact absurd hsingle (by simp [Single])
    | value v =>
      have hvalue : applyParams catalog false (.value v) tree = .ok tree' := h
      rw [applyParams] at hvalue
      rw [ownNames, ownNames, (applyValue_lists hvalue).1]
      exact keepsOrder_refl _

/-- Whatever is done to a tree or below it, its conditions stand in the order in which they became active. -/
theorem ownNames_runAt (path : List String) {change : Change} (hsingle : Single change)
    (tree : ConditionTree) :
    KeepsOrder tree.ownNames (change.runAt catalog path tree).1.ownNames :=
  Change.runAt_induction (R := fun tree tree' => KeepsOrder tree.ownNames tree'.ownNames)
    (fun _ => keepsOrder_refl _) (fun _ _ => keepsOrder_refl _) (run_ownNames hsingle) path tree

/-! ### Input with several pairs -/

theorem applyPair_isProtected {untrusted : Bool} {pair : String × Params}
    (h : applyPair catalog untrusted pair tree = .ok tree') :
    tree'.isProtected = tree.isProtected := by
  rcases applyPair_cases h with rfl | ⟨child, rfl⟩ | ⟨key, rfl⟩ | ⟨key, w, rfl⟩ <;> rfl

theorem applyPairs_isProtected {untrusted : Bool} {pairs : List (String × Params)}
    (h : applyPairs catalog untrusted pairs tree = .ok tree') :
    tree'.isProtected = tree.isProtected := by
  induction pairs generalizing tree with
  | nil =>
    rw [applyPairs_nil] at h
    cases h
    rfl
  | cons pair rest ih =>
    rw [applyPairs_cons] at h
    obtain ⟨next, hpair, hrest⟩ := Outcome.bind_eq_ok_iff.mp h
    exact (ih hrest).trans (applyPair_isProtected hpair)

theorem apply_append (before after : List (String × Params)) (tree : ConditionTree) :
    tree.apply catalog (.mapping (before ++ after)) =
      tree.apply catalog (.mapping before) >>= ConditionTree.apply catalog (.mapping after) := by
  simp only [ConditionTree.apply, applyParams, Bool.false_or, applyPairs_append]
  cases hbefore : applyPairs catalog tree.isProtected before tree with
  | error e => rfl
  | ok next =>
    rw [Outcome.ok_bind, Outcome.ok_bind, ConditionTree.apply, applyParams, Bool.false_or,
      applyPairs_isProtected hbefore]

/-- Whatever is done at the node or below it, conditions stand in the order in which they became active and relationships in the order in which they were first followed. -/
structure Ordered (catalog : Catalog) (tree : ConditionTree) : Prop where
  relationships : ∀ path (change : Change),
    KeepsOrder tree.followedNames (change.runAt catalog path tree).1.followedNames
  conditions : ∀ path (change : Change), Single change →
    KeepsOrder tree.ownNames (change.runAt catalog path tree).1.ownNames
  bulk : ∀ before after, tree.apply catalog (.mapping (before ++ after)) =
    tree.apply catalog (.mapping before) >>= ConditionTree.apply catalog (.mapping after)

theorem ordered (catalog : Catalog) (tree : ConditionTree) : Ordered catalog tree where
  relationships path change := followedNames_runAt path change tree
  conditions path _ hsingle := ownNames_runAt path hsingle tree
  bulk before after := apply_append before after tree

end ConditionTree

end SearchFilter
