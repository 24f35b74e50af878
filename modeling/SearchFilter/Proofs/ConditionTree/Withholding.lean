import SearchFilter.Proofs.ConditionTree.Keeping
import SearchFilter.Proofs.ConditionTree.Mediation
/-!
# Withholding is filtering

Applying untrusted input to a protected tree is the same as deleting from the input everything that policies withhold and applying the rest to a tree without protection. `Params.permitted` is the deletion. It depends on entities and policies alone, so what it deletes cannot matter.

Flags of protection decide about nothing in input from which everything withheld was deleted. They cannot even be told apart there: `applyParams_map` holds for every change of flags that `FlagChange` admits. With the change that clears all flags it gives the equivalence above, and with the one that changes nothing it says that a protected tree itself does not see what is deleted.
-/

namespace SearchFilter

namespace Params

/-! ### Deleting what is withheld -/

mutual

/-- Input without the pairs that the policies of their entities withhold. -/
def permitted (catalog : Catalog) (vocabulary : Vocabulary) : Params → Params
  | .mapping pairs => .mapping (permittedPairs catalog vocabulary pairs)
  | .value v => .value v

def permittedPairs (catalog : Catalog) (vocabulary : Vocabulary) :
    List (String × Params) → List (String × Params)
  | [] => []
  | (name, params) :: rest =>
    match vocabulary.relationship? name with
    | some relationship =>
      if vocabulary.policy.permits name then
        match catalog.vocabulary? relationship.entity with
        | some target =>
          (name, permitted catalog target params) :: permittedPairs catalog vocabulary rest
        | none => (name, params) :: permittedPairs catalog vocabulary rest
      else permittedPairs catalog vocabulary rest
    | none =>
      match vocabulary.resolve? name with
      | some key =>
        if vocabulary.policy.permits key.name then
          (name, params) :: permittedPairs catalog vocabulary rest
        else permittedPairs catalog vocabulary rest
      | none => (name, params) :: permittedPairs catalog vocabulary rest

end

section

variable {catalog : Catalog} {vocabulary : Vocabulary} {name : String}

theorem permittedPairs_of_relationship {relationship : Relationship} {target : Vocabulary}
    (hrelationship : vocabulary.relationship? name = some relationship)
    (htarget : catalog.vocabulary? relationship.entity = some target) (params : Params)
    (rest : List (String × Params)) :
    permittedPairs catalog vocabulary ((name, params) :: rest) =
      if vocabulary.policy.permits name then
        (name, permitted catalog target params) :: permittedPairs catalog vocabulary rest
      else permittedPairs catalog vocabulary rest := by
  rw [permittedPairs, hrelationship]
  simp only [htarget]

theorem permittedPairs_of_condition {key : ConditionKey}
    (hrelationship : vocabulary.relationship? name = none)
    (hkey : vocabulary.resolve? name = some key) (params : Params) (rest : List (String × Params)) :
    permittedPairs catalog vocabulary ((name, params) :: rest) =
      if vocabulary.policy.permits key.name then
        (name, params) :: permittedPairs catalog vocabulary rest
      else permittedPairs catalog vocabulary rest := by
  rw [permittedPairs, hrelationship]
  simp only [hkey]

theorem permittedPairs_cons (pair : String × Params) (rest : List (String × Params)) :
    permittedPairs catalog vocabulary (pair :: rest) =
      permittedPairs catalog vocabulary [pair] ++ permittedPairs catalog vocabulary rest := by
  obtain ⟨name, params⟩ := pair
  simp only [permittedPairs]
  cases vocabulary.relationship? name with
  | none =>
    cases vocabulary.resolve? name with
    | none => rfl
    | some key =>
      dsimp only
      split
      · rfl
      · rfl
  | some relationship =>
    dsimp only
    split
    · cases catalog.vocabulary? relationship.entity with
      | none => rfl
      | some target => rfl
    · rfl

end

/-- No raw scope and no unknown name stands at a place that relationships lead to. -/
def Clean (catalog : Catalog) (vocabulary : Vocabulary) (params : Params) : Prop :=
  ∀ way target inner, At catalog vocabulary params way target inner →
    (∀ s, inner ≠ .value (.string s)) ∧
      ∀ pairs, inner = .mapping pairs → ∀ name below, (name, below) ∈ pairs →
        (target.relationship? name).isSome = true ∨ (target.resolve? name).isSome = true

variable {catalog : Catalog} {vocabulary : Vocabulary} {name : String} {params : Params}
  {rest : List (String × Params)}

theorem Clean.condition (h : Clean catalog vocabulary (.mapping ((name, params) :: rest)))
    (hrelationship : vocabulary.relationship? name = none) :
    ∃ key, vocabulary.resolve? name = some key := by
  have hknown := (h [] vocabulary _ (.top vocabulary _)).2 _ rfl name params List.mem_cons_self
  rw [hrelationship, Option.isSome_none] at hknown
  exact Option.isSome_iff_exists.mp (hknown.resolve_left Bool.false_ne_true)

theorem Clean.tail (h : Clean catalog vocabulary (.mapping ((name, params) :: rest))) :
    Clean catalog vocabulary (.mapping rest) := by
  intro way target inner hat
  cases hat with
  | top =>
    have htop := h [] vocabulary _ (.top vocabulary _)
    constructor
    · intro s heq
      cases heq
    · intro pairs heq other below hmem
      cases heq
      exact htop.2 _ rfl other below (List.mem_cons_of_mem _ hmem)
  | @follow _ next _ relationship other below _ before after way hrelationship hnext hbelow =>
    have hlonger : At catalog vocabulary
        (.mapping ((name, params) :: before ++ (other, below) :: after))
        (((name, params) :: before, other) :: way) target inner :=
      .follow hrelationship hnext hbelow
    exact h _ target inner hlonger

theorem Clean.below (h : Clean catalog vocabulary (.mapping ((name, params) :: rest)))
    {relationship : Relationship} {next : Vocabulary}
    (hrelationship : vocabulary.relationship? name = some relationship)
    (hnext : catalog.vocabulary? relationship.entity = some next) : Clean catalog next params := by
  intro way target inner hat
  have hlonger : At catalog vocabulary (.mapping ([] ++ (name, params) :: rest))
      (([], name) :: way) target inner := .follow hrelationship hnext hat
  exact h _ target inner hlonger

theorem Clean.not_scope {s : String} (h : Clean catalog vocabulary (.value (.string s))) : False :=
  (h [] vocabulary _ (.top vocabulary _)).1 s rfl

end Params

namespace ConditionTree

open Params

/-! ### Changing flags of protection -/

/-- A change of trees that changes flags only, and that those it makes on the way agree with. -/
structure FlagChange (catalog : Catalog) (g : ConditionTree → ConditionTree) : Prop where
  vocabulary : ∀ tree, (g tree).vocabulary = tree.vocabulary
  conditions : ∀ tree, (g tree).conditions = tree.conditions
  withConditions : ∀ tree conditions, g { tree with conditions } = { g tree with conditions }
  relation : ∀ tree name, (g tree).relation catalog name = (tree.relation catalog name).map g
  withChild : ∀ tree name child, g (tree.withChild name child) = (g tree).withChild name (g child)

variable {catalog : Catalog} {registry : Registry} {source : SchemaSource}
  {tree child : ConditionTree} {name : String}
  {params : Params}

theorem flagChange_id : FlagChange catalog id where
  vocabulary _ := rfl
  conditions _ := rfl
  withConditions _ _ := rfl
  relation tree name := by
    show tree.relation catalog name = (tree.relation catalog name).map id
    cases tree.relation catalog name with
    | error e => rfl
    | ok child => rfl
  withChild _ _ _ := rfl

mutual

/-- The tree without protection at any node. -/
def cleared : ConditionTree → ConditionTree
  | ⟨vocabulary, conditions, relations, scope, _⟩ =>
    ⟨vocabulary, conditions, clearedRelations relations, scope, false⟩

def clearedRelations : List (String × ConditionTree) → List (String × ConditionTree)
  | [] => []
  | (name, child) :: rest => (name, child.cleared) :: clearedRelations rest

end

theorem cleared_eq (tree : ConditionTree) :
    tree.cleared =
      { tree with relations := clearedRelations tree.relations, isProtected := false } := by
  cases tree
  rw [cleared]

theorem lookup_clearedRelations (relations : List (String × ConditionTree)) :
    (clearedRelations relations).lookup name = (relations.lookup name).map cleared := by
  induction relations with
  | nil => rfl
  | cons pair rest ih =>
    obtain ⟨first, child⟩ := pair
    rw [clearedRelations, lookup_cons_eq_ite, lookup_cons_eq_ite, ih]
    split
    · rfl
    · rfl

theorem clearedRelations_putChild (relations : List (String × ConditionTree)) :
    clearedRelations (putChild name child relations) =
      putChild name child.cleared (clearedRelations relations) := by
  induction relations with
  | nil => rfl
  | cons pair rest ih =>
    obtain ⟨first, other⟩ := pair
    rw [putChild, clearedRelations, putChild]
    by_cases hfirst : first = name
    · rw [if_pos hfirst, if_pos hfirst, clearedRelations]
    · rw [if_neg hfirst, if_neg hfirst, clearedRelations, ih]

theorem flagChange_cleared : FlagChange catalog cleared where
  vocabulary tree := by rw [cleared_eq]
  conditions tree := by rw [cleared_eq]
  withConditions tree conditions := by rw [cleared_eq, cleared_eq]
  relation tree name := by
    have hchild : tree.cleared.child? name = (tree.child? name).map cleared := by
      rw [cleared_eq]
      exact lookup_clearedRelations tree.relations
    unfold relation
    rw [hchild]
    cases tree.child? name with
    | some child => rfl
    | none =>
      rw [cleared_eq]
      dsimp only [Option.map]
      cases tree.vocabulary.relationship? name with
      | none => rfl
      | some relationship =>
        dsimp only
        cases catalog.vocabulary relationship.entity with
        | error e => rfl
        | ok vocabulary => rfl
  withChild tree name child := by
    rw [cleared_eq, cleared_eq tree]
    simp only [withChild, clearedRelations_putChild]

/-! ### Names that are withheld -/

mutual

theorem screen_of_clean (hbuilt : catalog.Built registry source) :
    ∀ (params : Params) {entity : String} {vocabulary : Vocabulary},
      catalog.vocabulary? entity = some vocabulary →
      params.Clean catalog vocabulary → screen catalog vocabulary params = .ok ()
  | .mapping pairs, _, _, hvocabulary, hclean => by
    rw [screen_mapping]
    exact screenPairs_of_clean hbuilt pairs hvocabulary hclean
  | .value v, _, _, _, hclean => by
    cases v with
    | string s => exact hclean.not_scope.elim
    | null | bool _ | integer _ | float _ | timestamp _ | array _ =>
      rw [screen]
      exact fun _ heq => nomatch heq

theorem screenPairs_of_clean (hbuilt : catalog.Built registry source) :
    ∀ (pairs : List (String × Params)) {entity : String} {vocabulary : Vocabulary},
      catalog.vocabulary? entity = some vocabulary → Clean catalog vocabulary (.mapping pairs) →
      screenPairs catalog vocabulary pairs = .ok ()
  | [], _, _, _, _ => screenPairs_nil
  | (name, params) :: rest, _, vocabulary, hvocabulary, hclean => by
    rw [screenPairs_cons, screenPairs_of_clean hbuilt rest hvocabulary hclean.tail]
    have hpair : screenPair catalog vocabulary (name, params) = .ok () := by
      unfold screenPair
      cases hrelationship : vocabulary.relationship? name with
      | some relationship =>
        obtain ⟨target, htarget⟩ := hbuilt.target hvocabulary hrelationship
        have hbelow := screen_of_clean hbuilt params htarget (hclean.below hrelationship htarget)
        simp only [Catalog.vocabulary_eq_ok_iff.mpr htarget, Outcome.ok_bind, hbelow]
      | none =>
        obtain ⟨key, hkey⟩ := hclean.condition hrelationship
        simp only [hkey]
    rw [hpair, Outcome.ok_bind]

end

theorem clean_of_not_refused {vocabulary : Vocabulary}
    (h : ∀ way target inner front e, At catalog vocabulary params way target inner →
      ¬ Refused target inner front e) : params.Clean catalog vocabulary := by
  intro way target inner hat
  constructor
  · rintro s rfl
    exact h _ _ _ _ _ hat (.scope s)
  · rintro pairs rfl name below hmem
    cases hrelationship : target.relationship? name with
    | some relationship => exact .inl rfl
    | none =>
      cases hcondition : target.resolve? name with
      | some key => exact .inr rfl
      | none =>
        obtain ⟨before, after, rfl⟩ := List.append_of_mem hmem
        exact (h _ _ _ _ _ hat (.unknown below before after hrelationship hcondition)).elim

theorem clean_of_screen {vocabulary : Vocabulary} (h : screen catalog vocabulary params = .ok ()) :
    params.Clean catalog vocabulary := by
  refine clean_of_not_refused fun way target inner front e hat hrefused => ?_
  rw [screen_eq_of_at hat hrefused] at h
  obtain ⟨_, _, herror⟩ := Outcome.bind_eq_ok_iff.mp h
  cases herror

theorem clean_of_applyParams {untrusted : Bool} {tree' : ConditionTree}
    (huntrusted : (untrusted || tree.isProtected) = true)
    (hconsistent : Everywhere (Consistent catalog) tree)
    (h : applyParams catalog untrusted params tree = .ok tree') :
    params.Clean catalog tree.vocabulary := by
  refine clean_of_not_refused fun way target inner front e hat hrefused => ?_
  rw [applyParams_eq_of_at hat hrefused rfl huntrusted hconsistent] at h
  obtain ⟨_, _, herror⟩ := Outcome.bind_eq_ok_iff.mp h
  cases herror

/-! ### Both ways of applying -/

variable {g : ConditionTree → ConditionTree}

theorem applyValue_map {v : Value} (hscope : ∀ s, v ≠ .string s) (untrusted untrusted' : Bool) :
    (tree.applyValue untrusted v).map g = (g tree).applyValue untrusted' v := by
  cases v with
  | string s => exact absurd rfl (hscope s)
  | null | bool _ | integer _ | float _ | timestamp _ | array _ => rfl

theorem unset_map (hg : FlagChange catalog g) (key : ConditionKey) :
    g (tree.unset key) = (g tree).unset key := by
  unfold unset
  rw [hg.withConditions, hg.conditions]

theorem assign_map (hg : FlagChange catalog g) (key : ConditionKey) (v : Value) :
    (tree.assign catalog key v).map g = (g tree).assign catalog key v := by
  unfold assign
  split
  · rw [Outcome.map_ok, unset_map hg]
  · cases key.kind.coerce catalog.source.parseTemporal key.valueType v with
    | error e => rfl
    | ok w => rw [hg.conditions, Outcome.map_ok, hg.withConditions]

theorem applyCondition_map (hg : FlagChange catalog g) {key : ConditionKey}
    (hkey : tree.vocabulary.resolve? name = some key)
    (hpermitted : tree.vocabulary.policy.permits key.name = true) (untrusted untrusted' : Bool) :
    (tree.applyCondition catalog untrusted name params).map g =
      (g tree).applyCondition catalog untrusted' name params := by
  have hkey' := hkey
  have hpermitted' := hpermitted
  rw [← hg.vocabulary tree] at hkey' hpermitted'
  unfold applyCondition
  rw [resolve_eq_ok_iff.mpr hkey, resolve_eq_ok_iff.mpr hkey', Outcome.ok_bind, Outcome.ok_bind,
    withholds_of_permits hpermitted, withholds_of_permits hpermitted', if_neg Bool.false_ne_true,
    if_neg Bool.false_ne_true]
  cases params with
  | mapping pairs => rfl
  | value v =>
    cases v with
    | string s =>
      show (if s.isEmpty = true then _ else _ : Except ConditionError ConditionTree).map g =
          if s.isEmpty = true then _ else _
      split
      · rw [Outcome.map_ok, unset_map hg]
      · exact assign_map hg key _
    | null | bool _ | integer _ | float _ | timestamp _ | array _ => exact assign_map hg key _

/-- A withheld condition is passed over before its value is looked at. -/
theorem applyCondition_of_not_permits {key : ConditionKey}
    (hkey : tree.vocabulary.resolve? name = some key)
    (hwithheld : ¬ tree.vocabulary.policy.permits key.name = true) (params : Params) :
    tree.applyCondition catalog true name params = .ok tree := by
  rw [applyCondition, resolve_eq_ok_iff.mpr hkey, Outcome.ok_bind,
    if_pos (withholds_of_not_permits hwithheld)]

theorem applyPair_of_not_permits {relationship : Relationship} {target : Vocabulary}
    (hrelationship : tree.vocabulary.relationship? name = some relationship)
    (htarget : catalog.vocabulary? relationship.entity = some target)
    (hwithheld : ¬ tree.vocabulary.policy.permits name = true) (params : Params) :
    applyPair catalog true (name, params) tree =
      (screen catalog target params).map fun _ => tree := by
  simp only [applyPair, hrelationship, withholds_of_not_permits hwithheld, if_true,
    Catalog.vocabulary_eq_ok_iff.mpr htarget, Outcome.ok_bind]
  cases screen catalog target params <;> rfl

theorem applyPair_condition_map (hg : FlagChange catalog g) {key : ConditionKey}
    (hrelationship : tree.vocabulary.relationship? name = none)
    (hkey : tree.vocabulary.resolve? name = some key) (untrusted' : Bool) :
    (applyPair catalog true (name, params) tree).map g =
      applyPairs catalog untrusted' (permittedPairs catalog tree.vocabulary [(name, params)])
        (g tree) := by
  have hpair : applyPair catalog true (name, params) tree =
      tree.applyCondition catalog true name params := by
    simp only [applyPair, hrelationship]
  have hpair' : applyPair catalog untrusted' (name, params) (g tree) =
      (g tree).applyCondition catalog untrusted' name params := by
    simp only [applyPair, hg.vocabulary, hrelationship]
  rw [permittedPairs_of_condition hrelationship hkey, permittedPairs, hpair]
  by_cases hpermitted : tree.vocabulary.policy.permits key.name = true
  · rw [if_pos hpermitted, applyPairs_singleton, hpair',
      applyCondition_map hg hkey hpermitted true untrusted']
  · rw [if_neg hpermitted, applyPairs_nil, applyCondition_of_not_permits hkey hpermitted,
      Outcome.map_ok]

theorem applyPair_relationship_map (hg : FlagChange catalog g)
    (hconsistent : Everywhere (Consistent catalog) tree) {relationship : Relationship}
    {target : Vocabulary} (hrelationship : tree.vocabulary.relationship? name = some relationship)
    (htarget : catalog.vocabulary? relationship.entity = some target)
    (hscreen : screen catalog target params = .ok ()) (untrusted' : Bool)
    (happly : ∀ child, child.vocabulary = target → Everywhere (Consistent catalog) child →
      (applyParams catalog true params child).map g =
        applyParams catalog untrusted' (params.permitted catalog target) (g child)) :
    (applyPair catalog true (name, params) tree).map g =
      applyPairs catalog untrusted' (permittedPairs catalog tree.vocabulary [(name, params)])
        (g tree) := by
  rw [permittedPairs_of_relationship hrelationship htarget, permittedPairs]
  by_cases hpermitted : tree.vocabulary.policy.permits name = true
  · obtain ⟨child, hchild⟩ := relation_isOk hrelationship htarget
    have hentity := hconsistent.here.relation hrelationship htarget hchild
    have hbelow := happly child hentity (hconsistent.relation consistent_invariant hchild)
    have hpermitted' := hpermitted
    rw [← hg.vocabulary tree] at hpermitted'
    rw [if_pos hpermitted, applyPairs_singleton]
    simp only [applyPair, hrelationship, hg.vocabulary, withholds_of_permits hpermitted,
      withholds_of_permits hpermitted', Bool.false_eq_true, if_false, hchild, hg.relation,
      Outcome.ok_bind, Outcome.map_ok, ← hbelow]
    cases applyParams catalog true params child with
    | error e => rfl
    | ok child' =>
      show Except.ok (g (tree.withChild name child')) = _
      rw [hg.withChild]
      rfl
  · rw [if_neg hpermitted, applyPairs_nil,
      applyPair_of_not_permits hrelationship htarget hpermitted, hscreen, Outcome.map_ok,
      Outcome.map_ok]

mutual

/-- Untrusted input does what its permitted part does to a tree with other flags, whether or not that part is trusted. -/
theorem applyParams_map (hbuilt : catalog.Built registry source) (hg : FlagChange catalog g) :
    ∀ (params : Params) {untrusted : Bool} (untrusted' : Bool) {tree : ConditionTree},
      (untrusted || tree.isProtected) = true → Everywhere (Consistent catalog) tree →
      params.Clean catalog tree.vocabulary →
      (applyParams catalog untrusted params tree).map g =
        applyParams catalog untrusted' (params.permitted catalog tree.vocabulary) (g tree)
  | .mapping pairs, _, _, _, huntrusted, hconsistent, hclean => by
    rw [applyParams_mapping huntrusted, permitted, applyParams]
    exact applyPairs_map hbuilt hg pairs _ hconsistent hclean
  | .value v, _, _, _, _, _, hclean => by
    rw [permitted, applyParams, applyParams]
    refine applyValue_map (fun s heq => ?_) _ _
    rw [heq] at hclean
    exact hclean.not_scope

theorem applyPairs_map (hbuilt : catalog.Built registry source) (hg : FlagChange catalog g) :
    ∀ (pairs : List (String × Params)) (untrusted' : Bool) {tree : ConditionTree},
      Everywhere (Consistent catalog) tree → Clean catalog tree.vocabulary (.mapping pairs) →
      (applyPairs catalog true pairs tree).map g =
        applyPairs catalog untrusted' (permittedPairs catalog tree.vocabulary pairs) (g tree)
  | [], _, _, _, _ => by
    rw [permittedPairs, applyPairs_nil, applyPairs_nil, Outcome.map_ok]
  | (name, params) :: rest, untrusted', tree, hconsistent, hclean => by
    have hrest : ∀ next, applyPair catalog true (name, params) tree = .ok next →
        (applyPairs catalog true rest next).map g =
          applyPairs catalog untrusted' (permittedPairs catalog tree.vocabulary rest) (g next) := by
      intro next hnext
      have hedits := applyPair_edits hnext
      have hclean' := hclean.tail
      rw [← hedits.vocabulary_eq] at hclean' ⊢
      exact applyPairs_map hbuilt hg rest untrusted'
        (hedits.everywhere consistent_invariant hconsistent) hclean'
    rw [applyPairs_cons, Outcome.map_bind_of_map hrest, permittedPairs_cons, applyPairs_append]
    cases hrelationship : tree.vocabulary.relationship? name with
    | none =>
      obtain ⟨key, hkey⟩ := hclean.condition hrelationship
      rw [applyPair_condition_map hg hrelationship hkey untrusted']
    | some relationship =>
      obtain ⟨target, htarget⟩ := hbuilt.target hconsistent.here.vocabulary hrelationship
      have hbelow := hclean.below hrelationship htarget
      have hscreen := screen_of_clean hbuilt params htarget hbelow
      rw [applyPair_relationship_map hg hconsistent hrelationship htarget hscreen untrusted'
        fun child hentity hchild => ?_]
      rw [← hentity] at hbelow ⊢
      exact applyParams_map hbuilt hg params untrusted' (Bool.true_or child.isProtected) hchild
        hbelow

end

/-- Applying clean input to a protected tree is applying its permitted part to the tree without protection: both fail with the same error, or the trees differ in flags alone. Input with the same permitted part does the same, flags included. And names that are denied keep the values and the trees they had, at every node. -/
theorem apply_permitted {policies : List PolicyLists}
    (hbuild : Catalog.build registry source policies = .ok catalog)
    (htree : Reachable catalog tree) (hprotected : tree.isProtected = true)
    (hclean : params.Clean catalog tree.vocabulary) :
    (tree.apply catalog params).map cleared =
      tree.cleared.apply catalog (params.permitted catalog tree.vocabulary) ∧
      (∀ other : Params, other.Clean catalog tree.vocabulary →
        other.permitted catalog tree.vocabulary = params.permitted catalog tree.vocabulary →
        tree.apply catalog other = tree.apply catalog params) ∧
      ∀ tree', tree.apply catalog params = .ok tree' → tree.Keeps tree' := by
  have hbuilt := Catalog.built_of_build hbuild
  have hconsistent := htree.consistent
  have huntrusted : (false || tree.isProtected) = true := hprotected
  have hid : ∀ x : Except ConditionError ConditionTree, x.map id = x := fun x => by cases x <;> rfl
  constructor
  · exact applyParams_map hbuilt flagChange_cleared params false huntrusted hconsistent hclean
  constructor
  · intro other hother hsame
    have hleft := applyParams_map hbuilt flagChange_id other false huntrusted hconsistent hother
    have hright := applyParams_map hbuilt flagChange_id params false huntrusted hconsistent hclean
    rw [hid] at hleft hright
    rw [hsame] at hleft
    exact hleft.trans hright.symm
  · intro tree' happly
    exact applyParams_keeps params huntrusted happly

/-- A flag and drafts, which the policy withholds, between a key and the key of the author of the posts. -/
theorem apply_permitted_blog :
    ∃ params start, params = .mapping
      [("key", .value (.string "a")), ("key_is_null", .value (.string "?")),
        ("drafts", .mapping [("author", .mapping [("key", .value .null)])]),
        ("posts", .mapping [("author",
          .mapping [("key_is_null", .value (.bool true)), ("key", .value (.string "b"))])])] ∧
      forEntity Catalog.blog "User" true = .ok start ∧ params.Clean Catalog.blog start.vocabulary ∧
      (start.apply Catalog.blog params).map cleared =
        start.cleared.apply Catalog.blog (params.permitted Catalog.blog start.vocabulary) := by
  obtain ⟨user, _, huser, _⟩ := Catalog.blog_vocabularies
  have hstart := forEntity_eq_ok huser true
  have hscreen : (Catalog.blog.vocabulary "User" >>= fun vocabulary =>
      screen Catalog.blog vocabulary
        (.mapping [("key", .value (.string "a")), ("key_is_null", .value (.string "?")),
          ("drafts", .mapping [("author", .mapping [("key", .value .null)])]),
          ("posts", .mapping [("author",
            .mapping [("key_is_null", .value (.bool true)),
              ("key", .value (.string "b"))])])])).isOk = true := by
    decide +kernel
  rw [Catalog.vocabulary_eq_ok_iff.mpr huser, Outcome.ok_bind] at hscreen
  obtain ⟨_, hscreen⟩ := Outcome.exists_of_isOk hscreen
  have hclean := clean_of_screen hscreen
  exact ⟨_, fresh user true, rfl, hstart, hclean,
    (apply_permitted Catalog.ofSchema_blogSchema (.start hstart) rfl hclean).1⟩

end ConditionTree

end SearchFilter
