import SearchFilter.ConditionTree.Navigation
import SearchFilter.Proofs.Lookup
import SearchFilter.Proofs.Outcome
/-!
# Trees of relationships and input pair by pair

How a tree looks after the tree of one of its relationships was put into it, and what applying a mapping means for the pairs it consists of: they are applied one after another, and `applyPair` is what happens to one of them. Screening goes through a mapping in the same way. The rest of the theory reasons about bulk input through the lemmas on `++` here and never unfolds the recursion over mappings again.
-/

namespace SearchFilter

namespace Catalog

theorem vocabulary_eq_ok_iff {catalog : Catalog} {entity : String} {vocabulary : Vocabulary} :
    catalog.vocabulary entity = .ok vocabulary ↔ catalog.vocabulary? entity = some vocabulary := by
  unfold Catalog.vocabulary
  split
  · rename_i found hfound
    rw [hfound, Except.ok.injEq, Option.some.injEq]
  · rename_i hnone
    simp only [hnone, reduceCtorEq]

end Catalog

namespace ConditionTree

variable {catalog : Catalog} {untrusted : Bool} {tree child child' : ConditionTree} {name : String}

/-! ### The trees of relationships -/

theorem lookup_putChild (other : String) (relations : List (String × ConditionTree)) :
    (putChild name child relations).lookup other =
      if other = name then some child else relations.lookup other := by
  induction relations with
  | nil => rw [putChild, lookup_cons_eq_ite]
  | cons pair rest ih =>
    obtain ⟨first, tree⟩ := pair
    rw [putChild, lookup_cons_eq_ite]
    by_cases hfirst : first = name
    · subst first
      rw [if_pos rfl, lookup_cons_eq_ite]
      by_cases h : other = name
      · rw [if_pos h, if_pos h]
      · rw [if_neg h, if_neg h, if_neg h]
    · rw [if_neg hfirst, lookup_cons_eq_ite, ih]
      by_cases h : other = first
      · have hne : other ≠ name := fun heq => hfirst (h.symm.trans heq)
        rw [if_pos h, if_neg hne, if_pos h]
      · rw [if_neg h, if_neg h]

theorem mem_putChild {relations : List (String × ConditionTree)} {pair : String × ConditionTree}
    (h : pair ∈ putChild name child relations) : pair = (name, child) ∨ pair ∈ relations := by
  induction relations with
  | nil => exact .inl (List.mem_singleton.mp h)
  | cons first rest ih =>
    unfold putChild at h
    split at h
    · rcases List.mem_cons.mp h with rfl | hmem
      · exact .inl rfl
      · exact .inr (List.mem_cons_of_mem _ hmem)
    · rcases List.mem_cons.mp h with rfl | hmem
      · exact .inr List.mem_cons_self
      · rcases ih hmem with rfl | hmem
        · exact .inl rfl
        · exact .inr (List.mem_cons_of_mem _ hmem)

theorem putChild_self {relations : List (String × ConditionTree)}
    (h : relations.lookup name = some child) : putChild name child relations = relations := by
  induction relations with
  | nil => cases h
  | cons first rest ih =>
    obtain ⟨other, tree⟩ := first
    rw [lookup_cons_eq_ite] at h
    rw [putChild]
    by_cases hother : other = name
    · rw [if_pos hother.symm] at h
      cases h
      rw [if_pos hother, hother]
    · rw [if_neg (Ne.symm hother)] at h
      rw [if_neg hother, ih h]

theorem putChild_putChild (relations : List (String × ConditionTree)) :
    putChild name child' (putChild name child relations) = putChild name child' relations := by
  induction relations with
  | nil => simp [putChild]
  | cons first rest ih =>
    by_cases hfirst : first.1 = name
    · simp [putChild, hfirst]
    · simp [putChild, hfirst, ih]

@[simp] theorem withChild_withChild :
    (tree.withChild name child).withChild name child' = tree.withChild name child' := by
  unfold withChild
  rw [putChild_putChild]

theorem withChild_self (h : tree.child? name = some child) : tree.withChild name child = tree := by
  have hrelations : putChild name child tree.relations = tree.relations := putChild_self h
  cases tree
  rw [withChild, hrelations]

theorem child?_withChild (other : String) :
    (tree.withChild name child).child? other =
      if other = name then some child else tree.child? other :=
  lookup_putChild other tree.relations

theorem relation_of_child? (h : tree.child? name = some child) :
    tree.relation catalog name = .ok child := by
  rw [relation, h]

theorem relation_withChild : (tree.withChild name child).relation catalog name = .ok child := by
  refine relation_of_child? ?_
  rw [child?_withChild, if_pos rfl]

theorem relation_eq_ok (h : tree.relation catalog name = .ok child) :
    tree.child? name = some child ∨
      tree.child? name = none ∧ ∃ relationship vocabulary,
        tree.vocabulary.relationship? name = some relationship ∧
        catalog.vocabulary? relationship.entity = some vocabulary ∧
        child = fresh vocabulary tree.isProtected := by
  unfold relation at h
  split at h
  · rename_i hchild
    cases h
    exact .inl hchild
  · rename_i hnone
    split at h
    · cases h
    · rename_i relationship hrelationship
      obtain ⟨vocabulary, hvocabulary, rfl⟩ := Outcome.map_eq_ok_iff.mp h
      exact .inr ⟨hnone, relationship, vocabulary, hrelationship,
        Catalog.vocabulary_eq_ok_iff.mp hvocabulary, rfl⟩

/-! ### Names -/

theorem forEntity_eq_ok {entity : String} {vocabulary : Vocabulary}
    (h : catalog.vocabulary? entity = some vocabulary) (isProtected : Bool) :
    forEntity catalog entity isProtected = .ok (fresh vocabulary isProtected) := by
  rw [forEntity, Catalog.vocabulary_eq_ok_iff.mpr h]
  rfl

theorem resolve_eq_ok_iff {key : ConditionKey} :
    tree.resolve name = .ok key ↔ tree.vocabulary.resolve? name = some key := by
  unfold resolve
  split
  · rename_i found hfound
    rw [hfound, Except.ok.injEq, Option.some.injEq]
  · rename_i hnone
    simp only [hnone, reduceCtorEq]

theorem withholds_true (tree : ConditionTree) (name : String) :
    tree.withholds true name = !tree.vocabulary.policy.permits name :=
  Bool.true_and _

theorem permits_of_not_withholds (h : ¬ tree.withholds true name = true) :
    tree.vocabulary.policy.permits name = true := by
  rw [withholds_true, Bool.not_eq_true, Bool.not_eq_false'] at h
  exact h

theorem withholds_of_not_permits (h : ¬ tree.vocabulary.policy.permits name = true) :
    tree.withholds true name = true := by
  rw [withholds_true, Bool.eq_false_iff.mpr h, Bool.not_false]

theorem withholds_of_permits (h : tree.vocabulary.policy.permits name = true) (untrusted : Bool) :
    tree.withholds untrusted name = false := by
  rw [withholds, h, Bool.not_true, Bool.and_false]

/-! ### Pairs -/

def applyPair (catalog : Catalog) (untrusted : Bool) (pair : String × Params)
    (tree : ConditionTree) : Except ConditionError ConditionTree :=
  match tree.vocabulary.relationship? pair.1 with
  | some relationship =>
    if tree.withholds untrusted pair.1 then do
      let target ← catalog.vocabulary relationship.entity
      screen catalog target pair.2
      return tree
    else do
      let child ← tree.relation catalog pair.1
      let child ← applyParams catalog untrusted pair.2 child
      return tree.withChild pair.1 child
  | none => tree.applyCondition catalog untrusted pair.1 pair.2

theorem applyPairs_nil : applyPairs catalog untrusted [] tree = .ok tree := by
  rw [applyPairs]

theorem applyPairs_cons (pair : String × Params) (rest : List (String × Params)) :
    applyPairs catalog untrusted (pair :: rest) tree =
      applyPair catalog untrusted pair tree >>= applyPairs catalog untrusted rest := by
  rw [applyPairs, applyPair]
  cases tree.vocabulary.relationship? pair.1 with
  | none => rfl
  | some relationship =>
    cases tree.withholds untrusted pair.1 with
    | true => simp only [if_true, bind_assoc, pure_bind]
    | false => simp only [Bool.false_eq_true, if_false, bind_assoc, pure_bind]

theorem applyPairs_singleton (pair : String × Params) :
    applyPairs catalog untrusted [pair] tree = applyPair catalog untrusted pair tree := by
  rw [applyPairs_cons]
  cases applyPair catalog untrusted pair tree with
  | error e => rfl
  | ok next => rw [Outcome.ok_bind, applyPairs_nil]

theorem applyPairs_append (before after : List (String × Params)) :
    applyPairs catalog untrusted (before ++ after) tree =
      applyPairs catalog untrusted before tree >>= applyPairs catalog untrusted after := by
  induction before generalizing tree with
  | nil => rw [List.nil_append, applyPairs_nil, Outcome.ok_bind]
  | cons pair before ih =>
    rw [List.cons_append, applyPairs_cons, applyPairs_cons, bind_assoc]
    exact bind_congr fun next => ih

/-! ### Relations that input keeps -/

/-- What relates a tree to the results of the single steps, and goes from step to step and from below a relationship to above it, relates the tree to what bulk input makes of it. The relation may depend on whether the input is trusted, and `E` is what is known of the input. -/
structure InputRelation (catalog : Catalog) (E : Params → Prop)
    (R : Bool → ConditionTree → ConditionTree → Prop) : Prop where
  parts : ∀ {pairs pair}, E (.mapping pairs) → pair ∈ pairs → E pair.2
  refl : ∀ untrusted tree, R untrusted tree tree
  trans : ∀ {untrusted tree tree' tree''},
    R untrusted tree tree' → R untrusted tree' tree'' → R untrusted tree tree''
  weaken : ∀ {untrusted flag tree tree'}, R (untrusted || flag) tree tree' → R untrusted tree tree'
  value : ∀ {untrusted v tree tree'}, E (.value v) → tree.applyValue untrusted v = .ok tree' →
    R untrusted tree tree'
  condition : ∀ {untrusted name params tree tree'}, E params →
    tree.applyCondition catalog untrusted name params = .ok tree' → R untrusted tree tree'
  below : ∀ {untrusted name tree child child'}, ¬ tree.withholds untrusted name = true →
    tree.relation catalog name = .ok child → R untrusted child child' →
    R untrusted tree (tree.withChild name child')

section InputRelation

variable {E : Params → Prop} {R : Bool → ConditionTree → ConditionTree → Prop}

mutual

theorem InputRelation.applyParams (hR : InputRelation catalog E R) :
    ∀ (params : Params) {untrusted : Bool} {tree tree' : ConditionTree}, E params →
      applyParams catalog untrusted params tree = .ok tree' → R untrusted tree tree'
  | .mapping pairs, _, _, _, hparams, h => by
    rw [ConditionTree.applyParams] at h
    exact hR.weaken (hR.applyPairs pairs (fun _ => hR.parts hparams) h)
  | .value _, _, _, _, hparams, h => by
    rw [ConditionTree.applyParams] at h
    exact hR.weaken (hR.value hparams h)

theorem InputRelation.applyPairs (hR : InputRelation catalog E R) :
    ∀ (pairs : List (String × Params)) {untrusted : Bool} {tree tree' : ConditionTree},
      (∀ pair ∈ pairs, E pair.2) → applyPairs catalog untrusted pairs tree = .ok tree' →
      R untrusted tree tree'
  | [], _, tree, _, _, h => by
    rw [applyPairs_nil] at h
    cases h
    exact hR.refl _ tree
  | (name, params) :: rest, _, tree, _, hpairs, h => by
    rw [applyPairs_cons] at h
    obtain ⟨next, hpair, hrest⟩ := Outcome.bind_eq_ok_iff.mp h
    rw [List.forall_mem_cons] at hpairs
    refine hR.trans ?_ (hR.applyPairs rest hpairs.2 hrest)
    unfold applyPair at hpair
    split at hpair
    · split at hpair
      · -- what the policy withholds is screened and leaves the tree alone
        obtain ⟨target, _, hpair⟩ := Outcome.bind_eq_ok_iff.mp hpair
        obtain ⟨_, _, hpair⟩ := Outcome.bind_eq_ok_iff.mp hpair
        cases hpair
        exact hR.refl _ tree
      · rename_i hwithheld
        obtain ⟨child, hchild, hpair⟩ := Outcome.bind_eq_ok_iff.mp hpair
        obtain ⟨child', hchild', hpair⟩ := Outcome.bind_eq_ok_iff.mp hpair
        cases hpair
        exact hR.below hwithheld hchild (hR.applyParams params hpairs.1 hchild')
    · exact hR.condition hpairs.1 hpair

end

end InputRelation

/-! ### Screening pair by pair -/

def screenPair (catalog : Catalog) (vocabulary : Vocabulary) (pair : String × Params) :
    Except ConditionError Unit :=
  match vocabulary.relationship? pair.1 with
  | some relationship => do screen catalog (← catalog.vocabulary relationship.entity) pair.2
  | none =>
    match vocabulary.resolve? pair.1 with
    | some _ => .ok ()
    | none => .error (.unknownCondition vocabulary.entity pair.1)

variable {vocabulary : Vocabulary}

theorem screenPair_of_relationship {relationship : Relationship} {target : Vocabulary}
    (hrelationship : vocabulary.relationship? name = some relationship)
    (htarget : catalog.vocabulary? relationship.entity = some target) (params : Params) :
    screenPair catalog vocabulary (name, params) = screen catalog target params := by
  simp only [screenPair, hrelationship, Catalog.vocabulary_eq_ok_iff.mpr htarget, Outcome.ok_bind]

theorem screenPairs_nil : screenPairs catalog vocabulary [] = .ok () := by
  rw [screenPairs]

theorem screenPairs_cons (pair : String × Params) (rest : List (String × Params)) :
    screenPairs catalog vocabulary (pair :: rest) =
      screenPair catalog vocabulary pair >>= fun _ => screenPairs catalog vocabulary rest := by
  rw [screenPairs, screenPair]
  cases vocabulary.relationship? pair.1 with
  | some relationship => simp only [bind_assoc]
  | none =>
    cases vocabulary.resolve? pair.1 with
    | some key => rfl
    | none => rfl

theorem screenPairs_append (before after : List (String × Params)) :
    screenPairs catalog vocabulary (before ++ after) =
      screenPairs catalog vocabulary before >>= fun _ => screenPairs catalog vocabulary after := by
  induction before with
  | nil => rw [List.nil_append, screenPairs_nil, Outcome.ok_bind]
  | cons pair before ih =>
    rw [List.cons_append, screenPairs_cons, screenPairs_cons, bind_assoc]
    exact bind_congr fun _ => ih

end ConditionTree

end SearchFilter
