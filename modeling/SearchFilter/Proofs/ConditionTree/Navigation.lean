import SearchFilter.Proofs.ConditionTree.Following
/-!
# Every declared relationship can be followed

A catalog is built only if every relationship leads to one of its entities, and a reachable tree has only nodes with vocabularies of the catalog. So at every node exactly the relationships of its vocabulary can be followed, on paths of any length and through entities that lead back to themselves.

For the same reason no operation ever asks the catalog for an entity that it does not have. There are three places where one is asked for: where a relationship is followed, where input for it is applied, and where input for it is only screened. Each has the vocabulary of an entity of the catalog at hand, and the relationship is one of this vocabulary.
-/

namespace SearchFilter

def KnowsEntities {α : Type} (x : Except ConditionError α) : Prop :=
  ∀ entity, x ≠ .error (.unknownEntity entity)

namespace KnowsEntities

variable {α β : Type} {x : Except ConditionError α}

theorem ok (a : α) : KnowsEntities (.ok a : Except ConditionError α) := fun _ h => nomatch h

theorem error {e : ConditionError} (h : ∀ entity, e ≠ .unknownEntity entity) :
    KnowsEntities (.error e : Except ConditionError α) :=
  fun entity heq => h entity (Except.error.inj heq)

theorem unknownCondition (entity name : String) :
    KnowsEntities (.error (.unknownCondition entity name) : Except ConditionError α) :=
  error fun _ => ConditionError.noConfusion

theorem invalidValue (name : String) (reason : InvalidReason) :
    KnowsEntities (.error (.invalidValue name reason) : Except ConditionError α) :=
  error fun _ => ConditionError.noConfusion

theorem injectionRisk (entity : String) :
    KnowsEntities (.error (.injectionRisk entity) : Except ConditionError α) :=
  error fun _ => ConditionError.noConfusion

/-- It is the error that counts, and not what the outcome would have been. -/
theorem of_error {e : ConditionError} (h : KnowsEntities (.error e : Except ConditionError α)) :
    KnowsEntities (.error e : Except ConditionError β) :=
  error fun entity heq => h entity (congrArg Except.error heq)

theorem bind {f : α → Except ConditionError β} (h : KnowsEntities x)
    (hf : ∀ a, x = .ok a → KnowsEntities (f a)) : KnowsEntities (x >>= f) := by
  cases x with
  | error e => exact of_error h
  | ok a => exact hf a rfl

theorem map (h : KnowsEntities x) (f : α → β) : KnowsEntities (x.map f) := by
  cases x with
  | error e => exact of_error h
  | ok a => exact ok (f a)

end KnowsEntities

namespace ConditionTree

variable {registry : Registry} {source : SchemaSource} {catalog : Catalog}
  {tree child node : ConditionTree} {name : String}

/-! ### Operations on a node -/

theorem resolve_knowsEntities (tree : ConditionTree) (name : String) :
    KnowsEntities (tree.resolve name) := by
  unfold resolve
  cases tree.vocabulary.resolve? name with
  | none => exact .unknownCondition _ name
  | some key => exact .ok key

theorem get_knowsEntities (tree : ConditionTree) (name : String) :
    KnowsEntities (tree.get name) :=
  (tree.resolve_knowsEntities name).bind fun _ _ => .ok _

theorem assign_knowsEntities (tree : ConditionTree) (key : ConditionKey) (v : Value) :
    KnowsEntities (tree.assign catalog key v) := by
  unfold assign
  split
  · exact .ok _
  · split
    · exact .ok _
    · exact .invalidValue _ _

theorem setScope_knowsEntities (tree : ConditionTree) (scope : String) :
    KnowsEntities (tree.setScope scope) := by
  unfold setScope
  split
  · exact .injectionRisk _
  · split
    · exact .ok _
    · split
      · exact .invalidValue _ _
      · exact .ok _

theorem reset_knowsEntities (tree : ConditionTree) (name : String) :
    KnowsEntities (tree.reset name) := by
  unfold reset
  split
  · exact .ok _
  · exact (tree.resolve_knowsEntities name).map _

theorem applyValue_knowsEntities (tree : ConditionTree) (untrusted : Bool) (v : Value) :
    KnowsEntities (tree.applyValue untrusted v) := by
  unfold applyValue
  split
  · exact .ok _
  · split
    · exact .injectionRisk _
    · exact tree.setScope_knowsEntities _
  · exact .invalidValue _ _

theorem applyCondition_knowsEntities (tree : ConditionTree) (untrusted : Bool) (name : String)
    (params : Params) : KnowsEntities (tree.applyCondition catalog untrusted name params) := by
  refine (tree.resolve_knowsEntities name).bind fun key _ => ?_
  split
  · exact .ok _
  · split
    · exact .invalidValue _ _
    · split
      · exact .ok _
      · exact tree.assign_knowsEntities key _
    · exact tree.assign_knowsEntities key _

/-! ### Relationships -/

theorem relationship?_isSome_iff {vocabulary : Vocabulary} :
    (∃ relationship, vocabulary.relationship? name = some relationship) ↔
      name ∈ vocabulary.relationshipNames := by
  rw [← Option.isSome_iff_exists, Vocabulary.relationship?, List.find?_isSome,
    Vocabulary.relationshipNames, List.mem_map]
  simp only [beq_iff_eq]

theorem vocabulary_knowsEntities (hbuilt : catalog.Built registry source) {entity : String}
    {vocabulary : Vocabulary} {relationship : Relationship}
    (hvocabulary : catalog.vocabulary? entity = some vocabulary)
    (hrelationship : vocabulary.relationship? name = some relationship) :
    KnowsEntities (catalog.vocabulary relationship.entity) := by
  obtain ⟨target, htarget⟩ := hbuilt.target hvocabulary hrelationship
  rw [Catalog.vocabulary_eq_ok_iff.mpr htarget]
  exact .ok target

theorem relation_isOk_iff (hbuilt : catalog.Built registry source) (h : Consistent catalog tree) :
    (∃ child, tree.relation catalog name = .ok child) ↔
      name ∈ tree.vocabulary.relationshipNames := by
  rw [← relationship?_isSome_iff]
  constructor
  · intro ⟨child, hchild⟩
    obtain ⟨relationship, hrelationship, _⟩ := h.target hchild
    exact ⟨relationship, hrelationship⟩
  · intro ⟨relationship, hrelationship⟩
    obtain ⟨target, htarget⟩ := hbuilt.target h.vocabulary hrelationship
    exact relation_isOk hrelationship htarget

theorem relation_eq_error (hbuilt : catalog.Built registry source) (h : Consistent catalog tree)
    (hname : name ∉ tree.vocabulary.relationshipNames) :
    tree.relation catalog name = .error (tree.unknown name) := by
  cases hrelation : tree.relation catalog name with
  | ok child => exact absurd ((relation_isOk_iff hbuilt h).mp ⟨child, hrelation⟩) hname
  | error e =>
    have hnone : tree.vocabulary.relationship? name = none := by
      by_contra hsome
      exact hname (relationship?_isSome_iff.mp (Option.ne_none_iff_exists'.mp hsome))
    rw [relation, hnone] at hrelation
    split at hrelation
    · cases hrelation
    · exact hrelation.symm

theorem relation_knowsEntities (hbuilt : catalog.Built registry source)
    (h : Consistent catalog tree) (name : String) :
    KnowsEntities (tree.relation catalog name) := by
  by_cases hname : name ∈ tree.vocabulary.relationshipNames
  · obtain ⟨child, hchild⟩ := (relation_isOk_iff hbuilt h).mpr hname
    rw [hchild]
    exact .ok child
  · rw [relation_eq_error hbuilt h hname]
    exact .unknownCondition _ name

/-! ### Bulk input -/

mutual

theorem screen_knowsEntities (hbuilt : catalog.Built registry source) :
    ∀ (params : Params) {entity : String} {vocabulary : Vocabulary},
      catalog.vocabulary? entity = some vocabulary →
        KnowsEntities (screen catalog vocabulary params)
  | .mapping pairs, _, _, hvocabulary => by
    rw [screen]
    exact screenPairs_knowsEntities hbuilt pairs hvocabulary
  | .value v, _, _, _ => by
    cases v with
    | string s =>
      rw [screen]
      exact .injectionRisk _
    | _ =>
      simp only [screen]
      exact .ok ()

theorem screenPairs_knowsEntities (hbuilt : catalog.Built registry source) :
    ∀ (pairs : List (String × Params)) {entity : String} {vocabulary : Vocabulary},
      catalog.vocabulary? entity = some vocabulary →
        KnowsEntities (screenPairs catalog vocabulary pairs)
  | [], _, _, _ => by
    rw [screenPairs_nil]
    exact .ok ()
  | (name, params) :: rest, _, vocabulary, hvocabulary => by
    rw [screenPairs_cons]
    refine KnowsEntities.bind ?_ fun _ _ => screenPairs_knowsEntities hbuilt rest hvocabulary
    unfold screenPair
    split
    · rename_i relationship hrelationship
      refine (vocabulary_knowsEntities hbuilt hvocabulary hrelationship).bind fun target htarget => ?_
      exact screen_knowsEntities hbuilt params (Catalog.vocabulary_eq_ok_iff.mp htarget)
    · split
      · exact .ok ()
      · exact .unknownCondition _ name

end

mutual

theorem applyParams_knowsEntities (hbuilt : catalog.Built registry source) {untrusted : Bool} :
    ∀ (params : Params) {tree : ConditionTree}, Everywhere (Consistent catalog) tree →
      KnowsEntities (applyParams catalog untrusted params tree)
  | .mapping pairs, _, h => by
    rw [applyParams]
    exact applyPairs_knowsEntities hbuilt pairs h
  | .value v, tree, _ => by
    rw [applyParams]
    exact tree.applyValue_knowsEntities _ v

theorem applyPairs_knowsEntities (hbuilt : catalog.Built registry source) {untrusted : Bool} :
    ∀ (pairs : List (String × Params)) {tree : ConditionTree},
      Everywhere (Consistent catalog) tree →
        KnowsEntities (applyPairs catalog untrusted pairs tree)
  | [], _, _ => by
    rw [applyPairs_nil]
    exact .ok _
  | (name, params) :: rest, tree, h => by
    rw [applyPairs_cons]
    refine KnowsEntities.bind ?_ fun next hpair =>
      applyPairs_knowsEntities hbuilt rest ((applyPair_edits hpair).everywhere consistent_invariant h)
    unfold applyPair
    split
    · rename_i relationship hrelationship
      split
      · have hvocabulary := vocabulary_knowsEntities hbuilt h.here.vocabulary hrelationship
        refine hvocabulary.bind fun target htarget => ?_
        have hscreen := screen_knowsEntities hbuilt params (Catalog.vocabulary_eq_ok_iff.mp htarget)
        exact hscreen.bind fun _ _ => .ok tree
      · refine (relation_knowsEntities hbuilt h.here name).bind fun child hchild => ?_
        have hbelow : KnowsEntities (applyParams catalog untrusted params child) :=
          applyParams_knowsEntities hbuilt params (h.relation consistent_invariant hchild)
        exact hbelow.bind fun below _ => .ok _
    · exact tree.applyCondition_knowsEntities untrusted name params

end

/-! ### Anywhere in a tree -/

section Built

variable (hbuilt : catalog.Built registry source)

include hbuilt

theorem run_knowsEntities (h : Everywhere (Consistent catalog) tree) (change : Change) :
    KnowsEntities (change.run catalog tree) := by
  cases change with
  | set name v => exact (tree.resolve_knowsEntities name).bind fun key _ =>
      tree.assign_knowsEntities key v
  | reset name => exact tree.reset_knowsEntities name
  | follow name => exact (relation_knowsEntities hbuilt h.here name).map _
  | setScope scope => exact tree.setScope_knowsEntities scope
  | apply params => exact applyParams_knowsEntities hbuilt params h
  | resetAll | clearScope | setProtected => exact .ok _

theorem visit_knowsEntities {α : Type}
    {action : ConditionTree → Except ConditionError (ConditionTree × α)}
    (haction : ∀ node, Everywhere (Consistent catalog) node → KnowsEntities (action node))
    (path : List String) (h : Everywhere (Consistent catalog) tree) :
    KnowsEntities (tree.visit catalog action path).2 := by
  induction path generalizing tree with
  | nil =>
    have hnode := haction tree h
    unfold visit
    split
    · exact .ok _
    · rename_i e herror
      rw [herror] at hnode
      exact hnode.of_error
  | cons name path ih =>
    have hrelation := relation_knowsEntities hbuilt h.here name
    unfold visit
    split
    · rename_i e herror
      rw [herror] at hrelation
      exact hrelation.of_error
    · rename_i child hchild
      exact ih (h.relation consistent_invariant hchild)

theorem runAt_knowsEntities (h : Everywhere (Consistent catalog) tree) (path : List String)
    (change : Change) : KnowsEntities (change.runAt catalog path tree).2 :=
  visit_knowsEntities hbuilt (fun _ hnode => (run_knowsEntities hbuilt hnode change).map _) path h

end Built

def read (name : String) (tree : ConditionTree) :
    Except ConditionError (ConditionTree × Option Value) :=
  (tree.get name).map fun v => (tree, v)

/-! ### Main results -/

/-- What following the relationship does at a node, and afterwards. -/
structure Follows (catalog : Catalog) (tree : ConditionTree) (path : List String)
    (node : ConditionTree) (name : String) : Prop where
  isOk_iff : (∃ child, node.relation catalog name = .ok child) ↔
    name ∈ node.vocabulary.relationshipNames
  /-- The tree belongs to the entity that the relationship leads to. -/
  entity : ∀ child, node.relation catalog name = .ok child →
    ∃ relationship, node.vocabulary.relationship? name = some relationship ∧
      catalog.vocabulary? relationship.entity = some child.vocabulary
  /-- The tree is there after it was followed. -/
  made : ∀ child, node.relation catalog name = .ok child →
    ((Change.follow name).runAt catalog path tree).2 = .ok () ∧
      ((Change.follow name).runAt catalog path tree).1.descendant? (path ++ [name]) = some child
  /-- Later it is the same tree, with what has reached it since, unless it was forgotten. -/
  stays : ∀ child steps, node.relation catalog name = .ok child →
    (∀ step ∈ steps, ¬ Step.Forgets (path ++ [name]) step) →
      let followed := ((Change.follow name).runAt catalog path tree).1
      ∃ later, (runAll catalog steps followed).descendant? path = some later ∧
        later.relation catalog name =
          .ok (runAll catalog (reaching catalog (path ++ [name]) steps followed) child)
  /-- What is done elsewhere leaves it as it is. -/
  same : ∀ child steps, node.relation catalog name = .ok child →
    (∀ step ∈ steps, ¬ Step.Forgets (path ++ [name]) step ∧ Step.Elsewhere (path ++ [name]) step) →
      let followed := ((Change.follow name).runAt catalog path tree).1
      ∃ later, (runAll catalog steps followed).descendant? path = some later ∧
        later.relation catalog name = .ok child
  /-- Nothing is made for a name that is unknown. -/
  unknown : name ∉ node.vocabulary.relationshipNames →
    node.relation catalog name = .error (node.unknown name) ∧
      (Change.follow name).runAt catalog path tree = (tree, .error (node.unknown name))

theorem follows (hbuilt : catalog.Built registry source) (h : Everywhere (Consistent catalog) tree)
    {path : List String} (hnode : tree.descendant? path = some node) (name : String) :
    Follows catalog tree path node name := by
  have hconsistent := (h.descendant? hnode).here
  have hmade : ∀ child, node.relation catalog name = .ok child →
      ((Change.follow name).runAt catalog path tree).2 = .ok () ∧
        ((Change.follow name).runAt catalog path tree).1.descendant? (path ++ [name]) =
          some child := by
    intro child hchild
    have hrun : (Change.follow name).run catalog node = .ok (node.withChild name child) := by
      rw [Change.run, hchild, Outcome.map_ok]
    obtain ⟨hresult, hthere⟩ := runAt_of_ok hnode hrun
    refine ⟨hresult, ?_⟩
    rw [descendant?_append, hthere, Option.bind_some, descendant?_cons, child?_withChild, if_pos rfl]
    rfl
  have hstays : ∀ child steps, node.relation catalog name = .ok child →
      (∀ step ∈ steps, ¬ Step.Forgets (path ++ [name]) step) →
        let followed := ((Change.follow name).runAt catalog path tree).1
        ∃ later, (runAll catalog steps followed).descendant? path = some later ∧
          later.relation catalog name =
            .ok (runAll catalog (reaching catalog (path ++ [name]) steps followed) child) := by
    intro child steps hchild hkeeps followed
    have hfollowed : Everywhere (Consistent catalog) followed :=
      (Change.runAt_edits path (.follow name) tree).everywhere consistent_invariant h
    have hlast := descendant?_runAll hfollowed (hmade child hchild).2 hkeeps
    rw [descendant?_append] at hlast
    obtain ⟨later, hlater, hbelow⟩ := Option.bind_eq_some_iff.mp hlast
    rw [descendant?_cons] at hbelow
    obtain ⟨found, hfound, hsame⟩ := Option.bind_eq_some_iff.mp hbelow
    cases hsame
    exact ⟨later, hlater, relation_of_child? hfound⟩
  constructor
  · exact relation_isOk_iff hbuilt hconsistent
  · exact fun child hchild => hconsistent.target hchild
  · exact hmade
  · exact hstays
  · intro child steps hchild hsteps followed
    obtain ⟨later, hlater, hrelation⟩ :=
      hstays child steps hchild fun step hstep => (hsteps step hstep).1
    rw [reaching_eq_nil fun step hstep => (hsteps step hstep).2] at hrelation
    exact ⟨later, hlater, hrelation⟩
  · intro hname
    have herror := relation_eq_error hbuilt hconsistent hname
    refine ⟨herror, runAt_of_error hnode ?_⟩
    rw [Change.run, herror, Outcome.map_error]

/-- In a tree of a built catalog the declared relationships can be followed at every node, and nothing that is done in it ever finds an entity missing. -/
theorem follows_of_reachable {policies : List PolicyLists}
    (h : Catalog.build registry source policies = .ok catalog) (htree : Reachable catalog tree) :
    (∀ path node name, tree.descendant? path = some node → Follows catalog tree path node name) ∧
      (∀ path (change : Change) entity,
        (change.runAt catalog path tree).2 ≠ .error (.unknownEntity entity)) ∧
      ∀ path name entity,
        (tree.visit catalog (read name) path).2 ≠ .error (.unknownEntity entity) := by
  have hbuilt := Catalog.built_of_build h
  have hconsistent := htree.consistent
  refine ⟨fun path node name hnode => follows hbuilt hconsistent hnode name, ?_, ?_⟩
  · exact runAt_knowsEntities hbuilt hconsistent
  · intro path name
    exact visit_knowsEntities hbuilt (fun node _ => (node.get_knowsEntities name).map _) path
      hconsistent

/-- The author of a post has posts, too. -/
theorem follows_of_reachable_blog : ∃ user, forEntity Catalog.blog "User" false = .ok user ∧
    let tree := ((Change.follow "author").runAt Catalog.blog ["posts"] user).1
    (∃ author, tree.descendant? ["posts", "author"] = some author ∧ author.entity = "User" ∧
      Follows Catalog.blog tree ["posts", "author"] author "posts") ∧
    ∀ params entity,
      ((Change.apply params).runAt Catalog.blog ["posts", "author", "drafts"] tree).2 ≠
        .error (.unknownEntity entity) := by
  have hparts : ((forEntity Catalog.blog "User" false).toOption.bind fun user =>
      (((Change.follow "author").runAt Catalog.blog ["posts"] user).1.descendant?
        ["posts", "author"]).map fun author => author.entity) = some "User" := by
    decide +kernel
  obtain ⟨user, huser, hauthor⟩ := Option.bind_eq_some_iff.mp hparts
  obtain ⟨author, hauthor, hentity⟩ := Option.map_eq_some_iff.mp hauthor
  have hstart := Outcome.toOption_eq_some_iff.mp huser
  obtain ⟨hfollows, hknows, -⟩ := follows_of_reachable Catalog.ofSchema_blogSchema
    ((Reachable.start hstart).change ["posts"] (.follow "author"))
  exact ⟨user, hstart, ⟨author, hauthor, hentity, hfollows _ _ "posts" hauthor⟩,
    fun params => hknows ["posts", "author", "drafts"] (.apply params)⟩

end ConditionTree

end SearchFilter
