import SearchFilter.Proofs.ConditionTree.Navigation
import SearchFilter.Proofs.ConditionTree.Reapplying
/-!
# What following and failing leave alone

A program follows relationships to a node and then does something there. On the way trees are made where there are none, and they stay even if the path leads nowhere or what is done at its end fails. Nobody can tell: a tree with nothing to filter on is left out of every report, and what was there before is as it was. What fails leaves no more than the way to it.

`visit_eq_navigated` takes failing apart from following. For following, a report on a node is a list to which every relationship adds its part. The part of a fresh tree is empty, so making one changes no report at the node, and by induction none above it.

Input in bulk may change much before it fails. `work` is what becomes of a tree that it is worked into, and by `applyParams_eq_kept` applying is working on a copy that is kept only if nothing failed.
-/

namespace SearchFilter

namespace ConditionTree

variable {catalog : Catalog} {tree tree' child child' : ConditionTree} {name : String}
  {path : List String}

/-! ### Reports -/

/-- The report goes through the relationships and takes a part from each that is not left out. -/
structure Collects {β : Type} (report : List (String × ConditionTree) → List β)
    (omits : ConditionTree → Bool) (part : String → ConditionTree → β) : Prop where
  nil : report [] = []
  cons : ∀ name child rest, report ((name, child) :: rest) =
    if omits child then report rest else part name child :: report rest

section

variable {β : Type} {report : List (String × ConditionTree) → List β}
  {omits : ConditionTree → Bool} {part : String → ConditionTree → β}

theorem Collects.append (h : Collects report omits part)
    (before after : List (String × ConditionTree)) :
    report (before ++ after) = report before ++ report after := by
  induction before with
  | nil => rw [List.nil_append, h.nil, List.nil_append]
  | cons first rest ih =>
    obtain ⟨name, child⟩ := first
    rw [List.cons_append, h.cons, h.cons, ih]
    split
    · rfl
    · rw [List.cons_append]

theorem Collects.withChild (h : Collects report omits part)
    (hchild : tree.relation catalog name = .ok child)
    (hfresh : ∀ vocabulary isProtected, omits (fresh vocabulary isProtected) = true)
    (homits : omits child' = omits child) (hpart : part name child' = part name child) :
    report (tree.withChild name child').relations = report tree.relations := by
  rcases relation_eq_ok hchild with hexists | ⟨hnone, _, vocabulary, _, _, rfl⟩
  · obtain ⟨before, after, hrelations, hbefore⟩ := List.lookup_eq_some_iff.mp hexists
    have hnew := Vocabulary.lookup_eq_none_iff.mp (List.lookup_eq_none_iff.mpr hbefore)
    rw [ConditionTree.withChild, hrelations, putChild_append_cons hnew, h.append, h.append, h.cons,
      h.cons, homits, hpart]
  · have hnew := Vocabulary.lookup_eq_none_iff.mp hnone
    rw [ConditionTree.withChild, putChild_of_not_mem hnew, h.append, h.cons, homits, hfresh,
      if_pos rfl, h.nil, List.append_nil]

end

theorem collects_clauses : Collects relationClauses (fun child => child.compile.isEmpty)
    fun _ child => child.compile.parenthesized where
  nil := by rw [relationClauses]
  cons := relationClauses_cons

theorem collects_includes : Collects relationIncludes isEmpty
    fun name child => .mk name child.includes where
  nil := by rw [relationIncludes]
  cons _ _ _ := by rw [relationIncludes]

theorem collects_pairs : Collects relationPairs isEmpty fun name child => (name, child.value) where
  nil := by rw [relationPairs]
  cons := relationPairs_cons

theorem length_eq_includes (tree : ConditionTree) :
    tree.length = tree.conditions.length + tree.includes.length +
      (if tree.scope.isSome then 1 else 0) := by
  rw [length, includes_eq, relationIncludes_eq, List.length_map]

structure SameReports (tree tree' : ConditionTree) : Prop where
  compile : tree'.compile = tree.compile
  includes : tree'.includes = tree.includes
  value : tree'.value = tree.value
  length : tree'.length = tree.length
  isEmpty : tree'.isEmpty = tree.isEmpty

theorem SameReports.refl (tree : ConditionTree) : SameReports tree tree := ⟨rfl, rfl, rfl, rfl, rfl⟩

theorem fresh_isEmpty (vocabulary : Vocabulary) (isProtected : Bool) :
    (fresh vocabulary isProtected).isEmpty = true := by
  rw [fresh, isEmpty, areEmpty]
  rfl

theorem SameReports.withChild (hchild : tree.relation catalog name = .ok child)
    (h : SameReports child child') : SameReports tree (tree.withChild name child') := by
  have hcompile : ∀ vocabulary isProtected,
      (fresh vocabulary isProtected).compile.isEmpty = true := by
    intro vocabulary isProtected
    rw [ConditionTree.compile, clauses_of_isEmpty (fresh_isEmpty vocabulary isProtected)]
    rfl
  have hclauses := collects_clauses.withChild hchild hcompile
    (congrArg Fragment.isEmpty h.compile) (congrArg Fragment.parenthesized h.compile)
  have hincludes := collects_includes.withChild hchild fresh_isEmpty h.isEmpty
    (congrArg (Include.mk name) h.includes)
  have hpairs := collects_pairs.withChild hchild fresh_isEmpty h.isEmpty
    (congrArg (Prod.mk name) h.value)
  have hlength : (tree.withChild name child').length = tree.length := by
    rw [length_eq_includes, length_eq_includes, includes_eq, includes_eq, hincludes]
    rfl
  constructor
  · rw [ConditionTree.compile, ConditionTree.compile, clauses_eq, clauses_eq, hclauses]
    rfl
  · rw [includes_eq, includes_eq, hincludes]
  · rw [value_eq, value_eq, hpairs]
    rfl
  · exact hlength
  · rw [Bool.eq_iff_iff, isEmpty_iff_length_eq_zero, isEmpty_iff_length_eq_zero, hlength]

/-! ### Following a path -/

/-- The tree after a path was followed as far as it leads. -/
def navigated (catalog : Catalog) (path : List String) (tree : ConditionTree) : ConditionTree :=
  (tree.visit catalog (fun node => .ok (node, ())) path).1

/-- What fails at the end of a path, or leaves the node there as it is, has followed the path and done nothing else. -/
theorem visit_eq_navigated {α : Type}
    {action : ConditionTree → Except ConditionError (ConditionTree × α)}
    (h : ∀ node node' a, action node = .ok (node', a) → (tree.visit catalog action path).2 = .ok a →
      node' = node) :
    (tree.visit catalog action path).1 = navigated catalog path tree := by
  induction path generalizing tree with
  | nil =>
    rw [navigated, visit, visit]
    rw [visit] at h
    cases haction : action tree with
    | error e => rfl
    | ok result =>
      obtain ⟨node', a⟩ := result
      rw [haction] at h
      exact h tree node' a haction rfl
  | cons step path ih =>
    rw [navigated, visit, visit]
    rw [visit] at h
    cases hchild : tree.relation catalog step with
    | error e => rfl
    | ok child =>
      rw [hchild] at h
      exact congrArg (tree.withChild step) (ih h)

theorem navigated_sameReports (path : List String) (tree : ConditionTree) :
    SameReports tree (navigated catalog path tree) :=
  visit_induction SameReports.refl SameReports.withChild
    (fun {node node' _} h => by cases h; exact .refl node) path tree

/-! ### Input that fails half way -/

mutual

/-- Works input into a tree at hand, up to where it fails. What was done by then stays. -/
def work (catalog : Catalog) (untrusted : Bool) :
    Params → ConditionTree → ConditionTree × Except ConditionError Unit
  | .mapping pairs, tree => workPairs catalog (untrusted || tree.isProtected) pairs tree
  | .value v, tree =>
    match applyValue (untrusted || tree.isProtected) v tree with
    | .ok tree => (tree, .ok ())
    | .error e => (tree, .error e)

def workPairs (catalog : Catalog) (untrusted : Bool) :
    List (String × Params) → ConditionTree → ConditionTree × Except ConditionError Unit
  | [], tree => (tree, .ok ())
  | (name, params) :: rest, tree =>
    if (tree.vocabulary.relationship? name).isSome && !tree.withholds untrusted name then
      match tree.relation catalog name with
      | .ok child =>
        match work catalog untrusted params child with
        | (child, .ok ()) => workPairs catalog untrusted rest (tree.withChild name child)
        | (child, .error e) => (tree.withChild name child, .error e)
      | .error e => (tree, .error e)
    else
      match applyPair catalog untrusted (name, params) tree with
      | .ok tree => workPairs catalog untrusted rest tree
      | .error e => (tree, .error e)

end

/-- A copy that was worked on is kept if nothing failed. -/
def kept (worked : ConditionTree × Except ConditionError Unit) :
    Except ConditionError ConditionTree :=
  worked.2.map fun _ => worked.1

mutual

theorem applyParams_eq_kept : ∀ (params : Params) (untrusted : Bool) (tree : ConditionTree),
    applyParams catalog untrusted params tree = kept (work catalog untrusted params tree)
  | .mapping pairs, untrusted, tree => by
    rw [applyParams, work, applyPairs_eq_kept pairs]
  | .value v, untrusted, tree => by
    rw [applyParams, work]
    cases applyValue (untrusted || tree.isProtected) v tree <;> rfl

theorem applyPairs_eq_kept :
    ∀ (pairs : List (String × Params)) (untrusted : Bool) (tree : ConditionTree),
      applyPairs catalog untrusted pairs tree = kept (workPairs catalog untrusted pairs tree)
  | [], untrusted, tree => by
    rw [applyPairs_nil, workPairs]
    rfl
  | (name, params) :: rest, untrusted, tree => by
    rw [applyPairs_cons, workPairs]
    split
    · rename_i hfollowed
      rw [Bool.and_eq_true, Option.isSome_iff_exists, Bool.not_eq_true'] at hfollowed
      obtain ⟨⟨relationship, hrelationship⟩, hpermitted⟩ := hfollowed
      simp only [applyPair, hrelationship, hpermitted, Bool.false_eq_true, if_false]
      cases hchild : tree.relation catalog name with
      | error e => rfl
      | ok child =>
        dsimp only
        rw [Outcome.ok_bind, applyParams_eq_kept params]
        obtain ⟨below, _ | _⟩ := work catalog untrusted params child
        · rfl
        · exact applyPairs_eq_kept rest untrusted (tree.withChild name below)
    · cases hpair : applyPair catalog untrusted (name, params) tree with
      | error e => rfl
      | ok next => exact applyPairs_eq_kept rest untrusted next

end

/-! ### What was there before -/

/-- The node is the same but for the trees below it. -/
structure SameHere (node node' : ConditionTree) : Prop where
  vocabulary : node'.vocabulary = node.vocabulary
  conditions : node'.conditions = node.conditions
  scope : node'.scope = node.scope
  isProtected : node'.isProtected = node.isProtected

theorem SameHere.refl (node : ConditionTree) : SameHere node node := ⟨rfl, rfl, rfl, rfl⟩

theorem descendant?_relation (hchild : tree.relation catalog name = .ok child)
    {place : List String} (hplace : place ≠ []) :
    tree.descendant? (name :: place) = child.descendant? place := by
  rw [descendant?_cons]
  rcases relation_eq_ok hchild with hexists | ⟨hnone, _, vocabulary, _, _, rfl⟩
  · rw [hexists, Option.bind_some]
  · obtain ⟨first, rest, rfl⟩ := List.exists_cons_of_ne_nil hplace
    rw [hnone, descendant?_cons]
    rfl

theorem navigated_nodes (path : List String) (tree : ConditionTree) :
    ∀ place node, tree.descendant? place = some node →
      ∃ node', (navigated catalog path tree).descendant? place = some node' ∧
        SameHere node node' := by
  refine visit_induction (R := fun tree tree' => ∀ place node, tree.descendant? place = some node →
    ∃ node', tree'.descendant? place = some node' ∧ SameHere node node') ?_ ?_ ?_ path tree
  · exact fun tree place node hnode => ⟨node, hnode, .refl node⟩
  · exact exists_descendant?_withChild SameHere.refl ⟨rfl, rfl, rfl, rfl⟩
  · intro node node' _ h
    cases h
    exact fun place node hnode => ⟨node, hnode, .refl node⟩

theorem navigated_cons {step : String} (hchild : tree.relation catalog step = .ok child)
    (path : List String) : navigated catalog (step :: path) tree =
      tree.withChild step (navigated catalog path child) := by
  rw [navigated, visit, hchild]
  rfl

theorem navigated_of_error {step : String} {e : ConditionError}
    (hchild : tree.relation catalog step = .error e) (path : List String) :
    navigated catalog (step :: path) tree = tree := by
  rw [navigated, visit, hchild]

theorem navigated_elsewhere (path : List String) {tree : ConditionTree} {place : List String}
    (hplace : ¬ place <+: path) :
    (navigated catalog path tree).descendant? place = tree.descendant? place := by
  induction path generalizing tree place with
  | nil => rfl
  | cons step path ih =>
    cases hchild : tree.relation catalog step with
    | error e => rw [navigated_of_error hchild]
    | ok child =>
      cases place with
      | nil => exact absurd List.nil_prefix hplace
      | cons first rest =>
        rw [navigated_cons hchild, descendant?_withChild]
        split
        · rename_i hfirst
          subst hfirst
          rw [List.prefix_cons_inj] at hplace
          have hrest : rest ≠ [] := fun heq => hplace (heq ▸ List.nil_prefix)
          rw [ih hplace, descendant?_relation hchild hrest]
        · rfl

theorem navigated_made (path : List String) {tree : ConditionTree} {place : List String}
    {node' : ConditionTree} (hnone : tree.descendant? place = none)
    (hmade : (navigated catalog path tree).descendant? place = some node') :
    node'.isEmpty = true := by
  induction path generalizing tree place with
  | nil => cases hnone.symm.trans hmade
  | cons step path ih =>
    cases hchild : tree.relation catalog step with
    | error e =>
      rw [navigated_of_error hchild] at hmade
      cases hnone.symm.trans hmade
    | ok child =>
      cases place with
      | nil => cases hnone
      | cons first rest =>
        rw [navigated_cons hchild, descendant?_withChild] at hmade
        split at hmade
        · rename_i hfirst
          subst hfirst
          cases rest with
          | nil =>
            -- the first tree on the path was made, and what was made below it cannot be told
            cases hmade
            rw [(navigated_sameReports path child).isEmpty]
            rw [descendant?_cons] at hnone
            rcases relation_eq_ok hchild with hexists | ⟨_, _, vocabulary, _, _, rfl⟩
            · rw [hexists] at hnone
              cases hnone
            · exact fresh_isEmpty vocabulary tree.isProtected
          | cons second rest =>
            rw [descendant?_relation hchild (List.cons_ne_nil second rest)] at hnone
            exact ih hnone hmade
        · cases hnone.symm.trans hmade

/-! ### Main results -/

/-- The second tree is the first one, apart from trees with nothing in them on the path. -/
structure OnlyFollowed (path : List String) (tree tree' : ConditionTree) : Prop where
  reports : SameReports tree tree'
  nodes : ∀ place node, tree.descendant? place = some node →
    ∃ node', tree'.descendant? place = some node' ∧ SameHere node node'
  made : ∀ place node', tree.descendant? place = none → tree'.descendant? place = some node' →
    place <+: path ∧ node'.isEmpty = true
  elsewhere : ∀ place, ¬ place <+: path → tree'.descendant? place = tree.descendant? place

theorem onlyFollowed (catalog : Catalog) (path : List String) (tree : ConditionTree) :
    OnlyFollowed path tree (navigated catalog path tree) where
  reports := navigated_sameReports path tree
  nodes := navigated_nodes path tree
  made place node' hnone hmade := by
    refine ⟨?_, navigated_made path hnone hmade⟩
    by_contra hplace
    rw [navigated_elsewhere path hplace, hnone] at hmade
    cases hmade
  elsewhere place hplace := navigated_elsewhere path hplace

/-- Following a path can be told by nothing but trees with nothing in them, and neither can what fails at its end. -/
structure Unobserved (catalog : Catalog) (path : List String) (tree : ConditionTree) : Prop where
  followed : OnlyFollowed path tree (navigated catalog path tree)
  read : ∀ name, (tree.visit catalog (read name) path).1 = navigated catalog path tree
  /-- The path may lead nowhere, or the change may fail: it leaves nothing of its own. -/
  failed : ∀ (change : Change) e, (change.runAt catalog path tree).2 = .error e →
    (change.runAt catalog path tree).1 = navigated catalog path tree
  /-- Input that fails at any depth fails in a copy, which is dropped with all that was done to it. -/
  input : ∀ params node,
    ConditionTree.apply catalog params node = kept (work catalog false params node)

theorem unobserved (catalog : Catalog) (path : List String) (tree : ConditionTree) :
    Unobserved catalog path tree where
  followed := onlyFollowed catalog path tree
  read name := by
    refine visit_eq_navigated fun node node' v h _ => ?_
    obtain ⟨_, _, heq⟩ := Outcome.map_eq_ok_iff.mp h
    exact (Prod.mk.inj heq).1.symm
  failed change e herror := by
    refine visit_eq_navigated fun node node' _ _ hok => ?_
    rw [Change.runAt, hok] at herror
    cases herror
  input params node := applyParams_eq_kept params false node

/-- Input that fails behind the author of the posts has followed both and set a key in the copy. Of all this only the posts are left, where it was applied. -/
example : ((forEntity Catalog.blog "User" false).toOption.map fun user =>
    let params : Params := .mapping [("author", .mapping
      [("key", .value (.string "a")), ("drafts", .mapping [("key", .value .null)])])]
    let changed := (Change.apply params).runAt Catalog.blog ["posts"] user
    let posts := navigated Catalog.blog ["posts"] user |>.child? "posts"
    (changed.2.isOk, changed.1.followedNames, changed.1.length,
      (changed.1.descendant? ["posts", "author"]).isSome,
      posts.map fun posts => (work Catalog.blog false params posts).1.compile.template)) =
    some (false, ["posts"], 0, false, some "((\"users\".\"key\" = ?))") := by
  decide +kernel

end ConditionTree

end SearchFilter
