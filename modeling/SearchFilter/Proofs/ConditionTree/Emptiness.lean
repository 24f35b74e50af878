import SearchFilter.Proofs.ConditionTree.Order
import SearchFilter.Proofs.Fragment.Clauses
/-!
# Trees with nothing to filter on

A tree says in three ways that there is nothing to filter on: by itself, by its length and by compiling to an empty template. The first two look at the tree and the third at the text, and clauses are left out where a text is empty. They agree because no clause is an empty text: conditions and relationships have parentheses, and scopes are not blank. So the relationships that are reported for joining are those that the template has a group for.
-/

namespace SearchFilter

namespace ConditionTree

variable {catalog : Catalog} {tree child : ConditionTree} {name : String}
  {relations : List (String × ConditionTree)}

/-! ### What it means to be empty -/

theorem isEmpty_eq (tree : ConditionTree) :
    tree.isEmpty = (tree.conditions.isEmpty && tree.scope.isNone && areEmpty tree.relations) := by
  cases tree
  rw [isEmpty]

theorem areEmpty_eq_true_iff :
    areEmpty relations = true ↔ ∀ name child, (name, child) ∈ relations → child.isEmpty = true := by
  induction relations with
  | nil => simp [areEmpty]
  | cons first rest ih =>
    obtain ⟨other, below⟩ := first
    rw [areEmpty, Bool.and_eq_true, ih]
    constructor
    · rintro ⟨hbelow, hrest⟩ name child hmem
      rcases List.mem_cons.mp hmem with heq | hmem
      · cases heq
        exact hbelow
      · exact hrest name child hmem
    · intro h
      exact ⟨h other below List.mem_cons_self,
        fun name child hmem => h name child (List.mem_cons_of_mem _ hmem)⟩

theorem isEmpty_eq_true_iff : tree.isEmpty = true ↔ tree.conditions = [] ∧ tree.scope = none ∧
    ∀ name child, (name, child) ∈ tree.relations → child.isEmpty = true := by
  rw [isEmpty_eq, Bool.and_eq_true, Bool.and_eq_true, List.isEmpty_iff, Option.isNone_iff_eq_none,
    areEmpty_eq_true_iff, and_assoc]

theorem length_filter_eq_zero_iff :
    (relations.filter fun (_, child) => !child.isEmpty).length = 0 ↔
      ∀ name child, (name, child) ∈ relations → child.isEmpty = true := by
  rw [List.length_eq_zero_iff, List.filter_eq_nil_iff]
  simp

theorem isEmpty_iff_length_eq_zero (tree : ConditionTree) :
    tree.isEmpty = true ↔ tree.length = 0 := by
  have hscope : (if tree.scope.isSome then 1 else 0) = 0 ↔ tree.scope = none := by
    cases tree.scope <;> simp
  rw [isEmpty_eq_true_iff, length, Nat.add_eq_zero_iff, Nat.add_eq_zero_iff, hscope,
    length_filter_eq_zero_iff, List.length_eq_zero_iff, and_assoc, and_comm (a := tree.scope = none)]

mutual

theorem clauses_of_isEmpty : ∀ {tree : ConditionTree}, tree.isEmpty = true → tree.clauses = []
  | ⟨_, conditions, relations, scope, _⟩, h => by
    rw [isEmpty, Bool.and_eq_true, Bool.and_eq_true, List.isEmpty_iff,
      Option.isNone_iff_eq_none] at h
    obtain ⟨⟨rfl, rfl⟩, hbelow⟩ := h
    rw [clauses, relationClauses_of_areEmpty hbelow]
    rfl

theorem relationClauses_of_areEmpty : ∀ {relations : List (String × ConditionTree)},
    areEmpty relations = true → relationClauses relations = []
  | [], _ => by rw [relationClauses]
  | (name, child) :: rest, h => by
    rw [areEmpty, Bool.and_eq_true] at h
    have hempty : child.compile.isEmpty = true := by
      rw [compile, clauses_of_isEmpty h.1]
      rfl
    rw [relationClauses_cons, if_pos hempty, relationClauses_of_areEmpty h.2]

end

/-! ### Joined relationships -/

/-- The relationships whose trees compile to something. -/
def joined (tree : ConditionTree) : List (String × ConditionTree) :=
  tree.relations.filter fun (_, child) => !child.compile.isEmpty

theorem relationClauses_eq (tree : ConditionTree) :
    relationClauses tree.relations = tree.joined.map fun (_, child) =>
      child.compile.parenthesized := by
  unfold joined
  induction tree.relations with
  | nil => rw [relationClauses]; rfl
  | cons first rest ih =>
    obtain ⟨name, child⟩ := first
    rw [relationClauses_cons, List.filter_cons]
    by_cases hempty : child.compile.isEmpty = true
    · rw [if_pos hempty, if_neg (by simpa using hempty), ih]
    · rw [if_neg hempty, if_pos (by simpa using hempty), ih, List.map_cons]

theorem includes_eq (tree : ConditionTree) : tree.includes = relationIncludes tree.relations := by
  cases tree
  rw [includes]

theorem relationIncludes_eq (relations : List (String × ConditionTree)) :
    relationIncludes relations = (relations.filter fun (_, child) => !child.isEmpty).map
      fun (name, child) => .mk name child.includes := by
  induction relations with
  | nil => rw [relationIncludes]; rfl
  | cons first rest ih =>
    obtain ⟨name, child⟩ := first
    rw [relationIncludes, List.filter_cons]
    by_cases hempty : child.isEmpty = true
    · rw [if_pos hempty, if_neg (by simpa using hempty), ih]
    · rw [if_neg hempty, if_pos (by simpa using hempty), ih, List.map_cons]

/-! ### No clause is an empty text -/

theorem Consistent.clause_isEmpty (h : Consistent catalog tree) :
    ∀ clause ∈ tree.clauses, clause.isEmpty = false := by
  intro clause hclause
  rcases mem_clauses_iff.mp hclause with ⟨key, v, _, rfl⟩ | ⟨_, child, _, _, rfl⟩ |
    ⟨scope, hscope, rfl⟩
  · exact Fragment.parenthesized_isEmpty _
  · exact Fragment.parenthesized_isEmpty _
  · -- a scope is not blank
    obtain ⟨htext, _⟩ := h.scope scope hscope
    rw [Fragment.isEmpty, ← Bool.not_eq_true, String.isEmpty_iff]
    intro hempty
    have hscope : scope = "" := hempty
    rw [hscope] at htext
    cases htext

/-! ### Agreement -/

theorem isEmpty_iff_compile (h : Everywhere (Consistent catalog) tree) :
    tree.isEmpty = true ↔ tree.compile.isEmpty = true := by
  induction h with
  | @mk tree here _ ih =>
    have hrelations : relationClauses tree.relations = [] ↔
        ∀ name child, (name, child) ∈ tree.relations → child.isEmpty = true := by
      rw [relationClauses_eq, List.map_eq_nil_iff, joined, List.filter_eq_nil_iff]
      constructor
      · intro hnone name child hmem
        rw [ih name child hmem]
        simpa using hnone (name, child) hmem
      · intro hbelow pair hmem
        simpa using (ih pair.1 pair.2 hmem).mp (hbelow pair.1 pair.2 hmem)
    have hscope : scopeClause tree.scope = [] ↔ tree.scope = none := by
      cases tree.scope <;> simp [scopeClause]
    rw [isEmpty_eq_true_iff, compile, Fragment.conjunction_isEmpty_iff here.clause_isEmpty,
      clauses_eq, List.append_eq_nil_iff, List.append_eq_nil_iff, hrelations, hscope,
      conditionClauses, List.map_eq_nil_iff, and_assoc, and_comm (a := tree.scope = none)]

theorem joined_eq (h : Everywhere (Consistent catalog) tree) :
    tree.joined = tree.relations.filter fun (_, child) => !child.isEmpty := by
  refine List.filter_congr fun ⟨name, child⟩ hmem => ?_
  exact congrArg (!·) (Bool.eq_iff_iff.mpr (isEmpty_iff_compile (h.inside hmem)).symm)

/-- At a node, all that is said about emptiness and about relationships to join agrees. -/
structure Agrees (tree : ConditionTree) : Prop where
  isEmpty_iff : tree.isEmpty = true ↔ tree.length = 0
  length_iff : tree.length = 0 ↔ tree.compile.template = ""
  binds : tree.compile.template = "" → tree.compile.binds = []
  /-- The template has one group for each joined relationship, between the conditions and the scope. -/
  groups : tree.compile = Fragment.conjunction (conditionClauses tree.conditions ++
    (tree.joined.map fun (_, child) => child.compile.parenthesized) ++ scopeClause tree.scope)
  includes : tree.includes = tree.joined.map fun (name, child) => .mk name child.includes
  names : (tree.joined.map (·.1)).Nodup

theorem agrees (hconsistent : Everywhere (Consistent catalog) tree) (hunrepeated : Unrepeated tree) :
    Agrees tree where
  isEmpty_iff := isEmpty_iff_length_eq_zero tree
  length_iff := by
    rw [← isEmpty_iff_length_eq_zero, isEmpty_iff_compile hconsistent, Fragment.isEmpty,
      String.isEmpty_iff]
  binds htemplate := by
    rw [← String.isEmpty_iff, ← Fragment.isEmpty, ← isEmpty_iff_compile hconsistent] at htemplate
    rw [compile, clauses_of_isEmpty htemplate]
    rfl
  groups := by rw [compile, clauses_eq, relationClauses_eq]
  includes := by rw [includes_eq, relationIncludes_eq, joined_eq hconsistent]
  names := hunrepeated.relations.sublist (List.filter_sublist.map _)

/-- Whatever was done to a tree, at every node what is said about emptiness and about joins agrees. The relationships stand in the order in which they were first followed: whatever is done next at a node or below it keeps the order of those that stay and puts new ones behind them. -/
theorem agrees_of_reachable (htree : Reachable catalog tree) :
    Everywhere (fun node => Agrees node ∧ ∀ path (change : Change),
      KeepsOrder node.followedNames (change.runAt catalog path node).1.followedNames) tree :=
  (htree.consistent.subtrees.and htree.unrepeated).imp fun node ⟨hconsistent, hunrepeated⟩ =>
    ⟨agrees hconsistent hunrepeated, fun path change => followedNames_runAt path change node⟩

/-- Drafts that were followed and say nothing, and posts that say something about their author alone. -/
theorem agrees_of_reachable_blog : ∃ tree, Reachable Catalog.blog tree ∧
    tree.followedNames = ["drafts", "posts"] ∧ tree.joined.map (·.1) = ["posts"] ∧
    tree.compile.template = "((users.active))" ∧
    Everywhere (fun node => Agrees node ∧ ∀ path (change : Change), KeepsOrder node.followedNames
      (change.runAt Catalog.blog path node).1.followedNames) tree := by
  have hparts : (forEntity Catalog.blog "User" false >>= ConditionTree.apply Catalog.blog
      (.mapping [("drafts", .mapping []),
        ("posts", .mapping [("author", .value (.string "users.active"))])])).toOption.map
          (fun tree => (tree.followedNames, tree.joined.map (·.1), tree.compile.template)) =
      some (["drafts", "posts"], ["posts"], "((users.active))") := by
    decide +kernel
  obtain ⟨tree, htree, hparts⟩ := Option.map_eq_some_iff.mp hparts
  simp only [Prod.mk.injEq] at hparts
  obtain ⟨hfollowed, hjoined, htemplate⟩ := hparts
  have hreachable := Reachable.of_apply (Outcome.toOption_eq_some_iff.mp htree)
  exact ⟨tree, hreachable, hfollowed, hjoined, htemplate, agrees_of_reachable hreachable⟩

end ConditionTree

end SearchFilter
