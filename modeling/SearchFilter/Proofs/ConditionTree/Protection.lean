import SearchFilter.Proofs.ConditionTree.Invariants
import SearchFilter.Proofs.ConditionTree.Keeping
/-!
# Protected trees never get a scope

Scopes are refused in two places, and neither is enough by itself. A protected node refuses to have its scope set, but its flag can be lifted and trees below it have flags of their own. Input that comes through a protected node stays untrusted below it, but only as long as it is applied.

For a single application of input to a tree with a protected root the second rule is all that counts: no node gets another scope, whatever the flags below, and the nodes that are made have none. For a run that starts from a protected tree and lifts no protection both are needed, and the invariant is about flags and scopes together. Trees of relationships are made with the flag of the node above, so they are protected because that one is.
-/

namespace SearchFilter

namespace ConditionTree

variable {catalog : Catalog} {tree tree' child child' : ConditionTree} {name : String}

/-! ### Input for a protected tree -/

/-- Every node is still there with the scope that it had, and nodes that were not there have none. -/
structure KeepsScopes (tree tree' : ConditionTree) : Prop where
  nodes : ∀ path node, tree.descendant? path = some node →
    ∃ node', tree'.descendant? path = some node' ∧ node'.scope = node.scope
  made : ∀ path node', tree.descendant? path = none → tree'.descendant? path = some node' →
    node'.scope = none

theorem Filled.scope_eq (h : Filled catalog tree tree') {path : List String}
    {node' : ConditionTree} (hnode' : tree'.descendant? path = some node') :
    node'.scope = (tree.descendant? path).bind fun node => node.scope := by
  induction h generalizing path node' with
  | refl tree => rw [hnode', Option.bind_some]
  | trans h h' ih ih' =>
    rw [ih' hnode']
    exact h.keeps.bind_descendant? h'.keeps hnode'
      fun middle hmiddle _ => ih hmiddle
  | @conditions tree conditions _ =>
    cases path with
    | nil =>
      cases hnode'
      rfl
    | cons first path =>
      have hsame : tree.descendant? (first :: path) = some node' := hnode'
      rw [hsame, Option.bind_some]
  | inside _ hchild _ ih =>
    cases path with
    | nil =>
      cases hnode'
      rfl
    | cons first path =>
      exact eq_bind_descendant?_withChild (fun node => node.scope) hchild (fun _ _ => rfl) hnode' ih

theorem Filled.keepsScopes (h : Filled catalog tree tree') : KeepsScopes tree tree' where
  nodes path node hnode := by
    obtain ⟨node', hnode', _⟩ := h.keeps.nodes path node hnode
    have hscope := h.scope_eq hnode'
    rw [hnode, Option.bind_some] at hscope
    exact ⟨node', hnode', hscope⟩
  made path node' hnone hnode' := by
    have hscope := h.scope_eq hnode'
    rw [hnone, Option.bind_none] at hscope
    exact hscope

/-! ### Runs under protection -/

structure Sealed (node : ConditionTree) : Prop where
  isProtected : node.isProtected = true
  scope : node.scope = none

theorem sealed_fresh (vocabulary : Vocabulary) : Everywhere Sealed (fresh vocabulary true) :=
  everywhere_fresh ⟨rfl, rfl⟩

theorem sealed_relation (h : Everywhere Sealed tree)
    (hchild : tree.relation catalog name = .ok child) : Everywhere Sealed child :=
  h.relation_of_fresh (fun _ _ _ => ⟨h.here.isProtected, rfl⟩) hchild

theorem sealed_withChild (h : Everywhere Sealed tree) (h' : Everywhere Sealed child) :
    Everywhere Sealed (tree.withChild name child) :=
  h.put ⟨h.here.isProtected, h.here.scope⟩ h'

theorem sealed_withConditions (h : Everywhere Sealed tree)
    (conditions : List (ConditionKey × Value)) : Everywhere Sealed { tree with conditions } :=
  h.replace ⟨h.here.isProtected, h.here.scope⟩ fun _ hmem => hmem

theorem assign_sealed (h : Everywhere Sealed tree) {key : ConditionKey} {v : Value}
    (hassign : tree.assign catalog key v = .ok tree') : Everywhere Sealed tree' := by
  unfold assign at hassign
  split at hassign
  · cases hassign
    exact sealed_withConditions h _
  · split at hassign
    · cases hassign
      exact sealed_withConditions h _
    · cases hassign

theorem Filled.sealed (h : Filled catalog tree tree') (hold : Everywhere Sealed tree) :
    Everywhere Sealed tree' := by
  induction h with
  | refl tree => exact hold
  | trans _ _ ih ih' => exact ih' (ih hold)
  | conditions _ => exact sealed_withConditions hold _
  | inside _ hchild _ ih => exact sealed_withChild hold (ih (sealed_relation hold hchild))

theorem reset_sealed (h : Everywhere Sealed tree) (hreset : tree.reset name = .ok tree') :
    Everywhere Sealed tree' := by
  unfold reset at hreset
  split at hreset
  · cases hreset
    exact h.replace ⟨h.here.isProtected, h.here.scope⟩ fun _ hmem => (List.mem_filter.mp hmem).1
  · obtain ⟨key, _, rfl⟩ := Outcome.map_eq_ok_iff.mp hreset
    exact sealed_withConditions h _

/-- Every change but that of lifting protection keeps all nodes protected and without scopes. -/
theorem run_sealed {change : Change} (hchange : change ≠ .setProtected false)
    (hrun : change.run catalog tree = .ok tree') (h : Everywhere Sealed tree) :
    Everywhere Sealed tree' := by
  cases change with
  | set name v =>
    obtain ⟨key, _, hassign⟩ := Outcome.bind_eq_ok_iff.mp hrun
    exact assign_sealed h hassign
  | reset name => exact reset_sealed h hrun
  | resetAll =>
    cases hrun
    rw [resetAll, h.here.isProtected]
    exact sealed_fresh tree.vocabulary
  | follow name =>
    obtain ⟨child, hchild, rfl⟩ := Outcome.map_eq_ok_iff.mp hrun
    exact sealed_withChild h (sealed_relation h hchild)
  | setScope scope =>
    rw [Change.run, setScope, if_pos h.here.isProtected] at hrun
    cases hrun
  | clearScope =>
    cases hrun
    exact h.replace ⟨h.here.isProtected, rfl⟩ fun _ hmem => hmem
  | setProtected on =>
    cases on with
    | false => exact absurd rfl hchange
    | true =>
      cases hrun
      exact h.replace ⟨rfl, h.here.scope⟩ fun _ hmem => hmem
  | apply params => exact (apply_filled h.here.isProtected hrun).sealed h

/-- The trees of programs that start from protected conditions and lift no protection. -/
inductive Guarded (catalog : Catalog) : ConditionTree → Prop
  | start {entity : String} {tree : ConditionTree}
      (h : forEntity catalog entity true = .ok tree) : Guarded catalog tree
  | change {tree : ConditionTree} (path : List String) {change : Change}
      (hchange : change ≠ .setProtected false) (h : Guarded catalog tree) :
      Guarded catalog (change.runAt catalog path tree).1
  | descend {tree child : ConditionTree} {name : String} (h : Guarded catalog tree)
      (hchild : (name, child) ∈ tree.relations) : Guarded catalog child

theorem Guarded.sealed (h : Guarded catalog tree) : Everywhere Sealed tree := by
  induction h with
  | start h =>
    obtain ⟨vocabulary, _, h⟩ := Outcome.bind_eq_ok_iff.mp h
    cases h
    exact sealed_fresh vocabulary
  | change path hchange _ ih =>
    refine Change.runAt_induction (R := fun tree tree' =>
      Everywhere Sealed tree → Everywhere Sealed tree') (fun _ h => h) ?_ (run_sealed hchange) path
      _ ih
    intro tree child child' name hchild hbelow h
    exact sealed_withChild h (hbelow (sealed_relation h hchild))
  | descend _ hchild ih => exact ih.inside hchild

/-- Input never gives a node a scope if the root of the tree is protected, and without lifting protection nothing does. -/
theorem scopes_of_protected (catalog : Catalog) :
    (∀ (tree : ConditionTree) (params : Params), tree.isProtected = true →
      KeepsScopes tree ((Change.apply params).runAt catalog [] tree).1) ∧
    ∀ tree, Guarded catalog tree → Everywhere Sealed tree := by
  refine ⟨fun tree params hprotected => ?_, fun tree h => h.sealed⟩
  cases hrun : (Change.apply params).run catalog tree with
  | ok tree' =>
    rw [Change.runAt_nil_of_ok hrun]
    exact (apply_filled hprotected hrun).keepsScopes
  | error e =>
    rw [Change.runAt_nil_of_error hrun]
    have hsame : Filled catalog tree tree := .refl tree
    exact hsame.keepsScopes

/-- Posts that trust their input and have a scope, below a protected user: input makes a tree for their author. Below a user that is protected from the start the posts have no scope, although one was set. -/
theorem scopes_of_protected_blog : ∃ tree tree' guarded,
    tree.isProtected = true ∧
    (tree.descendant? ["posts"]).map (fun node => (node.isProtected, node.scope)) =
      some (false, some "1 = 1") ∧
    ((Change.apply (.mapping [("posts", .mapping [("author", .mapping [])])])).runAt
      Catalog.blog [] tree).1 = tree' ∧
    (tree'.descendant? ["posts", "author"]).isSome = true ∧ KeepsScopes tree tree' ∧
    Guarded Catalog.blog guarded ∧ (guarded.descendant? ["posts"]).isSome = true ∧
    Everywhere Sealed guarded := by
  have hparts : (forEntity Catalog.blog "User" false).toOption.map (fun start =>
      let tree := ((Change.setScope "1 = 1").runAt Catalog.blog ["posts"] start).1.setProtected true
      ((tree.descendant? ["posts"]).map (fun node => (node.isProtected, node.scope)),
        (((Change.apply (.mapping [("posts", .mapping [("author", .mapping [])])])).runAt
          Catalog.blog [] tree).1.descendant? ["posts", "author"]).isSome)) =
      some (some (false, some "1 = 1"), true) := by
    decide +kernel
  obtain ⟨start, _, hparts⟩ := Option.map_eq_some_iff.mp hparts
  obtain ⟨hposts, hauthor⟩ := Prod.mk.inj hparts
  have hguarded : (forEntity Catalog.blog "User" true).toOption.map (fun start =>
      ((((Change.setScope "1 = 1").runAt Catalog.blog ["posts"] start).1).descendant?
        ["posts"]).isSome) = some true := by
    decide +kernel
  obtain ⟨guarded, hstart, hmade⟩ := Option.map_eq_some_iff.mp hguarded
  have hrun := Guarded.change ["posts"] (fun h : Change.setScope "1 = 1" = _ => nomatch h)
    (.start (Outcome.toOption_eq_some_iff.mp hstart))
  have hboth := scopes_of_protected Catalog.blog
  exact ⟨_, _, _, rfl, hposts, rfl, hauthor, hboth.1 _ _ rfl, hrun, hmade, hboth.2 _ hrun⟩

end ConditionTree

end SearchFilter
