import SearchFilter.Proofs.ConditionTree.Filling
/-!
# What untrusted input leaves alone

Untrusted input never touches a name that a policy denies. After it was applied, every node that was there is still there, and at every node a denied name has the value or the tree that it had before. At nodes that the input made it has none.

`Keeps` says this with paths, so it speaks of all depths at once and of trees below denied relationships in particular. It is reflexive and transitive, so it is enough to see what the single steps of `Filled` keep.
-/

namespace SearchFilter

namespace ConditionTree

variable {catalog : Catalog} {tree tree' tree'' child child' : ConditionTree} {name : String}

/-- The nodes are still there, and at each node the names that its policy denies have what they had. -/
structure Keeps (tree tree' : ConditionTree) : Prop where
  nodes : ∀ path node, tree.descendant? path = some node →
    ∃ node', tree'.descendant? path = some node' ∧ node'.vocabulary = node.vocabulary
  values : ∀ path node' name, tree'.descendant? path = some node' →
    node'.vocabulary.policy.permits name = false →
    valueOf? name node'.conditions = (tree.descendant? path).bind fun node =>
      valueOf? name node.conditions
  trees : ∀ path node' name, tree'.descendant? path = some node' →
    node'.vocabulary.policy.permits name = false →
    node'.child? name = (tree.descendant? path).bind fun node => node.child? name

theorem Keeps.refl (tree : ConditionTree) : Keeps tree tree where
  nodes _ node hnode := ⟨node, hnode, rfl⟩
  values path node' name hnode' _ := by rw [hnode', Option.bind_some]
  trees path node' name hnode' _ := by rw [hnode', Option.bind_some]

theorem Keeps.absent (h : Keeps tree tree') {path : List String}
    (hnone : tree'.descendant? path = none) : tree.descendant? path = none := by
  cases hnode : tree.descendant? path with
  | none => rfl
  | some node =>
    obtain ⟨node', hnode', _⟩ := h.nodes path node hnode
    cases hnone.symm.trans hnode'

/-- What the first step keeps at a node can be seen through the second, because the node has the same vocabulary before and after it. -/
theorem Keeps.bind_descendant? {α : Type} {f : ConditionTree → Option α} (h : Keeps tree tree')
    (h' : Keeps tree' tree'') {path : List String} {node'' : ConditionTree}
    (hnode'' : tree''.descendant? path = some node'')
    (hfirst : ∀ node', tree'.descendant? path = some node' → node'.vocabulary = node''.vocabulary →
      f node' = (tree.descendant? path).bind f) :
    (tree'.descendant? path).bind f = (tree.descendant? path).bind f := by
  cases hnode' : tree'.descendant? path with
  | none => rw [h.absent hnode']
  | some node' =>
    obtain ⟨other, hother, hvocabulary⟩ := h'.nodes path node' hnode'
    rw [hnode''] at hother
    cases hother
    exact hfirst node' hnode' hvocabulary.symm

theorem Keeps.trans (h : Keeps tree tree') (h' : Keeps tree' tree'') : Keeps tree tree'' where
  nodes path node hnode := by
    obtain ⟨node', hnode', hvocabulary⟩ := h.nodes path node hnode
    obtain ⟨node'', hnode'', hvocabulary'⟩ := h'.nodes path node' hnode'
    exact ⟨node'', hnode'', hvocabulary'.trans hvocabulary⟩
  values path node'' name hnode'' hdenied := by
    rw [h'.values path node'' name hnode'' hdenied]
    refine h.bind_descendant? h' hnode'' fun node' hnode' hvocabulary => ?_
    rw [← hvocabulary] at hdenied
    exact h.values path node' name hnode' hdenied
  trees path node'' name hnode'' hdenied := by
    rw [h'.trees path node'' name hnode'' hdenied]
    refine h.bind_descendant? h' hnode'' fun node' hnode' hvocabulary => ?_
    rw [← hvocabulary] at hdenied
    exact h.trees path node' name hnode' hdenied

/-! ### Conditions and relationships -/

theorem descendant?_cons (path : List String) :
    tree.descendant? (name :: path) = (tree.child? name).bind (descendant? path) := by
  rw [descendant?]
  cases tree.child? name with
  | none => rfl
  | some child => rfl

theorem descendant?_append (path rest : List String) (tree : ConditionTree) :
    tree.descendant? (path ++ rest) = (tree.descendant? path).bind (descendant? rest) := by
  induction path generalizing tree with
  | nil => rfl
  | cons name path ih =>
    rw [List.cons_append, descendant?_cons, descendant?_cons]
    cases tree.child? name with
    | none => rfl
    | some child => exact ih child

theorem descendant?_withChild (first : String) (rest : List String) :
    (tree.withChild name child).descendant? (first :: rest) =
      if first = name then child.descendant? rest else tree.descendant? (first :: rest) := by
  rw [descendant?_cons, child?_withChild]
  split
  · rw [Option.bind_some]
  · rw [← descendant?_cons]

theorem exists_descendant?_withChild {R : ConditionTree → ConditionTree → Prop}
    (hrefl : ∀ node, R node node) (hhere : R tree (tree.withChild name child'))
    (hchild : tree.relation catalog name = .ok child)
    (hbelow : ∀ path node, child.descendant? path = some node →
      ∃ node', child'.descendant? path = some node' ∧ R node node')
    (path : List String) (node : ConditionTree) (hnode : tree.descendant? path = some node) :
    ∃ node', (tree.withChild name child').descendant? path = some node' ∧ R node node' := by
  cases path with
  | nil =>
    cases hnode
    exact ⟨_, rfl, hhere⟩
  | cons first path =>
    rw [descendant?_withChild]
    split
    · rename_i hfirst
      subst hfirst
      rw [descendant?_cons] at hnode
      obtain ⟨found, hfound, hnode⟩ := Option.bind_eq_some_iff.mp hnode
      cases (relation_of_child? hfound).symm.trans hchild
      exact hbelow path node hnode
    · exact ⟨node, hnode, hrefl node⟩

theorem keeps_withConditions {conditions : List (ConditionKey × Value)}
    (h : ∀ name, tree.vocabulary.policy.permits name = false →
      valueOf? name conditions = valueOf? name tree.conditions) :
    Keeps tree { tree with conditions } where
  nodes path node hnode := by
    cases path with
    | nil =>
      cases hnode
      exact ⟨_, rfl, rfl⟩
    | cons first path => exact ⟨node, hnode, rfl⟩
  values path node' name hnode' hdenied := by
    cases path with
    | nil =>
      cases hnode'
      exact h name hdenied
    | cons first path =>
      have hsame : tree.descendant? (first :: path) = some node' := hnode'
      rw [hsame, Option.bind_some]
  trees path node' name hnode' hdenied := by
    cases path with
    | nil =>
      cases hnode'
      rfl
    | cons first path =>
      have hsame : tree.descendant? (first :: path) = some node' := hnode'
      rw [hsame, Option.bind_some]

/-- What is below a relationship was below it before, or belongs to a fresh tree and was nowhere. -/
theorem descendant?_of_relation {α : Type} (hchild : tree.relation catalog name = .ok child)
    (path : List String) {f : ConditionTree → Option α}
    (hfresh : ∀ vocabulary isProtected, f (fresh vocabulary isProtected) = none) :
    (child.descendant? path).bind f = (tree.descendant? (name :: path)).bind f := by
  rw [descendant?_cons]
  rcases relation_eq_ok hchild with hexists | ⟨hnone, relationship, vocabulary, _, _, rfl⟩
  · rw [hexists, Option.bind_some]
  · rw [hnone, Option.bind_none, Option.bind_none]
    cases path with
    | nil => exact hfresh vocabulary tree.isProtected
    | cons first path =>
      rw [descendant?_cons]
      rfl

theorem eq_bind_descendant?_withChild {α : Type} (f : ConditionTree → Option α)
    (hchild : tree.relation catalog name = .ok child)
    (hfresh : ∀ vocabulary isProtected, f (fresh vocabulary isProtected) = none) {first : String}
    {path : List String} {node' : ConditionTree}
    (hnode' : (tree.withChild name child').descendant? (first :: path) = some node')
    (hbelow : child'.descendant? path = some node' → f node' = (child.descendant? path).bind f) :
    f node' = (tree.descendant? (first :: path)).bind f := by
  rw [descendant?_withChild] at hnode'
  by_cases hfirst : first = name
  · subst hfirst
    rw [if_pos rfl] at hnode'
    rw [hbelow hnode']
    exact descendant?_of_relation hchild path hfresh
  · rw [if_neg hfirst] at hnode'
    rw [hnode', Option.bind_some]

theorem keeps_withChild (hpermitted : tree.vocabulary.policy.permits name = true)
    (hchild : tree.relation catalog name = .ok child) (h : Keeps child child') :
    Keeps tree (tree.withChild name child') where
  nodes := exists_descendant?_withChild (fun _ => rfl) rfl hchild h.nodes
  values path node' other hnode' hdenied := by
    cases path with
    | nil =>
      cases hnode'
      rfl
    | cons first path =>
      refine eq_bind_descendant?_withChild (fun node => valueOf? other node.conditions) hchild
        (fun _ _ => rfl) hnode' ?_
      exact fun hbelow => h.values path node' other hbelow hdenied
  trees path node' other hnode' hdenied := by
    cases path with
    | nil =>
      cases hnode'
      rw [child?_withChild, if_neg (ne_of_permits hpermitted hdenied).symm]
      rfl
    | cons first path =>
      refine eq_bind_descendant?_withChild (fun node => node.child? other) hchild
        (fun _ _ => rfl) hnode' ?_
      exact fun hbelow => h.trees path node' other hbelow hdenied

/-! ### Bulk input -/

theorem Filled.keeps (h : Filled catalog tree tree') : Keeps tree tree' := by
  induction h with
  | refl tree => exact .refl tree
  | trans _ _ ih ih' => exact ih.trans ih'
  | conditions h => exact keeps_withConditions h
  | inside hpermitted hchild _ ih => exact keeps_withChild hpermitted hchild ih

theorem applyParams_keeps (params : Params) {untrusted : Bool}
    (huntrusted : (untrusted || tree.isProtected) = true)
    (h : applyParams catalog untrusted params tree = .ok tree') : Keeps tree tree' :=
  (applyParams_filled params huntrusted h).keeps

end ConditionTree

end SearchFilter
