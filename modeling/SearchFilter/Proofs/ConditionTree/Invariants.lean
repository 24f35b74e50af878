import SearchFilter.Proofs.Catalog.Built
import SearchFilter.Proofs.ConditionTree.Edits
/-!
# Invariants of reachable trees

A property of nodes that fresh nodes have and every edit keeps is had by every node of every reachable tree. `Invariant` collects what has to be shown of the property: three facts about single nodes, and nothing about operations, paths or runs.

The invariant that most of the theory needs is `Consistent`. A consistent node is one of its catalog: its vocabulary is that of its entity, the trees below it are those its relationships lead to, the values it stores were coerced for the condition that they are stored under, and its scope, if it has one, says something and asks for no values.
-/

namespace SearchFilter

namespace ConditionTree

inductive Everywhere (P : ConditionTree → Prop) : ConditionTree → Prop
  | mk {tree : ConditionTree} (here : P tree)
      (inside : ∀ name child, (name, child) ∈ tree.relations → Everywhere P child) :
      Everywhere P tree

variable {catalog : Catalog} {P : ConditionTree → Prop} {tree tree' child child' : ConditionTree}
  {name : String}

theorem Everywhere.here (h : Everywhere P tree) : P tree := by
  cases h with
  | mk here _ => exact here

theorem Everywhere.inside (h : Everywhere P tree) (hchild : (name, child) ∈ tree.relations) :
    Everywhere P child := by
  cases h with
  | mk _ inside => exact inside name child hchild

theorem Everywhere.imp {Q : ConditionTree → Prop} (hPQ : ∀ node, P node → Q node)
    (h : Everywhere P tree) : Everywhere Q tree := by
  induction h with
  | mk here _ ih => exact .mk (hPQ _ here) ih

theorem Everywhere.and {Q : ConditionTree → Prop} (hP : Everywhere P tree)
    (hQ : Everywhere Q tree) : Everywhere (fun node => P node ∧ Q node) tree := by
  induction hP with
  | mk here _ ih =>
    exact .mk ⟨here, hQ.here⟩ fun name child hmem => ih name child hmem (hQ.inside hmem)

theorem Everywhere.subtrees (h : Everywhere P tree) : Everywhere (Everywhere P) tree := by
  induction h with
  | mk here inside ih => exact .mk (.mk here inside) ih

theorem everywhere_fresh {vocabulary : Vocabulary} {isProtected : Bool}
    (here : P (fresh vocabulary isProtected)) : Everywhere P (fresh vocabulary isProtected) :=
  .mk here fun _ _ hmem => absurd hmem List.not_mem_nil

theorem Everywhere.replace (h : Everywhere P tree) (here : P tree')
    (hrelations : ∀ pair ∈ tree'.relations, pair ∈ tree.relations) : Everywhere P tree' :=
  .mk here fun name child hmem => h.inside (hrelations (name, child) hmem)

theorem Everywhere.put (h : Everywhere P tree) (here : P (tree.withChild name child))
    (h' : Everywhere P child) : Everywhere P (tree.withChild name child) := by
  refine .mk here fun other below hmem => ?_
  rcases mem_putChild hmem with heq | hold
  · cases heq
    exact h'
  · exact h.inside hold

/-- The tree of a relationship is below already, or is made with the protection of its parent. -/
theorem Everywhere.relation_of_fresh (h : Everywhere P tree)
    (hfresh : ∀ entity vocabulary, catalog.vocabulary? entity = some vocabulary →
      P (ConditionTree.fresh vocabulary tree.isProtected))
    (hchild : tree.relation catalog name = .ok child) : Everywhere P child := by
  rcases relation_eq_ok hchild with hexists | ⟨_, relationship, vocabulary, _, hvocabulary, rfl⟩
  · exact h.inside (Vocabulary.mem_of_lookup hexists)
  · exact everywhere_fresh (hfresh relationship.entity vocabulary hvocabulary)

/-! ### Checking all nodes -/

mutual

def all (p : ConditionTree → Bool) : ConditionTree → Bool
  | ⟨vocabulary, conditions, relations, scope, isProtected⟩ =>
    p ⟨vocabulary, conditions, relations, scope, isProtected⟩ && allBelow p relations

def allBelow (p : ConditionTree → Bool) : List (String × ConditionTree) → Bool
  | [] => true
  | (_, child) :: rest => child.all p && allBelow p rest

end

mutual

theorem everywhere_of_all {p : ConditionTree → Bool} : ∀ {tree : ConditionTree},
    tree.all p = true → Everywhere (fun node => p node = true) tree
  | ⟨_, _, _, _, _⟩, h => by
    rw [all, Bool.and_eq_true] at h
    exact .mk h.1 (everywhere_of_allBelow h.2)

theorem everywhere_of_allBelow {p : ConditionTree → Bool} :
    ∀ {relations : List (String × ConditionTree)}, allBelow p relations = true →
      ∀ name child, (name, child) ∈ relations → Everywhere (fun node => p node = true) child
  | [], _, _, _, hmem => absurd hmem List.not_mem_nil
  | (_, _) :: _, h, name, child, hmem => by
    rw [allBelow, Bool.and_eq_true] at h
    rcases List.mem_cons.mp hmem with heq | hmem
    · cases heq
      exact everywhere_of_all h.1
    · exact everywhere_of_allBelow h.2 name child hmem

end

/-! ### Invariants -/

/-- Fresh nodes have the property, and the edits of a node and of the trees below it keep it. -/
structure Invariant (catalog : Catalog) (P : ConditionTree → Prop) : Prop where
  fresh : ∀ {entity : String} {vocabulary : Vocabulary} (isProtected : Bool),
    catalog.vocabulary? entity = some vocabulary → P (fresh vocabulary isProtected)
  node : ∀ {tree tree' : ConditionTree}, NodeEdit catalog tree tree' → P tree → P tree'
  withChild : ∀ {tree child child' : ConditionTree} {name : String},
    tree.relation catalog name = .ok child →
    child'.vocabulary = child.vocabulary → P tree → P (tree.withChild name child')

theorem NodeEdit.vocabulary_eq (h : NodeEdit catalog tree tree') :
    tree'.vocabulary = tree.vocabulary := by
  cases h <;> rfl

theorem NodeEdit.mem_relations (h : NodeEdit catalog tree tree') {pair : String × ConditionTree}
    (hpair : pair ∈ tree'.relations) : pair ∈ tree.relations := by
  cases h with
  | forget name => exact (List.mem_filter.mp hpair).1
  | resetAll => exact absurd hpair List.not_mem_nil
  | store | unset | setScope | clearScope | setProtected => exact hpair

theorem Edit.vocabulary_eq (h : Edit catalog tree tree') : tree'.vocabulary = tree.vocabulary := by
  cases h with
  | node h => exact h.vocabulary_eq
  | follow | inside => rfl

theorem Edits.vocabulary_eq (h : Edits catalog tree tree') :
    tree'.vocabulary = tree.vocabulary := by
  induction h with
  | refl => rfl
  | tail _ hedit ih => exact hedit.vocabulary_eq.trans ih

theorem Everywhere.fresh (hP : Invariant catalog P) {entity : String} {vocabulary : Vocabulary}
    (isProtected : Bool) (hvocabulary : catalog.vocabulary? entity = some vocabulary) :
    Everywhere P (fresh vocabulary isProtected) :=
  everywhere_fresh (hP.fresh isProtected hvocabulary)

theorem Everywhere.relation (hP : Invariant catalog P) (h : Everywhere P tree)
    (hchild : tree.relation catalog name = .ok child) : Everywhere P child :=
  h.relation_of_fresh (fun _ _ hvocabulary => hP.fresh tree.isProtected hvocabulary) hchild

theorem Everywhere.withChild (hP : Invariant catalog P) (h : Everywhere P tree)
    (hchild : tree.relation catalog name = .ok child)
    (hvocabulary : child'.vocabulary = child.vocabulary) (h' : Everywhere P child') :
    Everywhere P (tree.withChild name child') :=
  h.put (hP.withChild hchild hvocabulary h.here) h'

theorem Edit.everywhere (hP : Invariant catalog P) (h : Edit catalog tree tree')
    (hold : Everywhere P tree) : Everywhere P tree' := by
  induction h with
  | node h => exact hold.replace (hP.node h hold.here) fun _ hmem => h.mem_relations hmem
  | follow hchild => exact hold.withChild hP hchild rfl (hold.relation hP hchild)
  | inside hchild h ih =>
    have hbelow := ih (hold.relation hP hchild)
    exact hold.withChild hP hchild h.vocabulary_eq hbelow

theorem Edits.everywhere (hP : Invariant catalog P) (h : Edits catalog tree tree')
    (hold : Everywhere P tree) : Everywhere P tree' := by
  induction h with
  | refl => exact hold
  | tail _ hedit ih => exact hedit.everywhere hP ih

theorem Reachable.everywhere (hP : Invariant catalog P) (h : Reachable catalog tree) :
    Everywhere P tree := by
  induction h with
  | start h =>
    obtain ⟨vocabulary, hvocabulary, h⟩ := Outcome.bind_eq_ok_iff.mp h
    cases h
    exact .fresh hP _ (Catalog.vocabulary_eq_ok_iff.mp hvocabulary)
  | change path change _ ih => exact (change.runAt_edits path _).everywhere hP ih
  | descend _ hchild ih => exact ih.inside hchild

/-! ### Consistent nodes -/

/-- The key is that of a name, and the value was coerced for a condition of the same canonical name. -/
structure Stored (catalog : Catalog) (vocabulary : Vocabulary) (key : ConditionKey) (v : Value) :
    Prop where
  resolved : ∃ name, vocabulary.resolve? name = some key
  coerced : ∃ name other u, vocabulary.resolve? name = some other ∧ other.name = key.name ∧
    u.isNull = false ∧
    other.kind.coerce catalog.source.parseTemporal other.valueType u = .ok v

structure Consistent (catalog : Catalog) (tree : ConditionTree) : Prop where
  vocabulary : catalog.vocabulary? tree.entity = some tree.vocabulary
  conditions : ∀ key v, (key, v) ∈ tree.conditions → Stored catalog tree.vocabulary key v
  relations : ∀ name child, (name, child) ∈ tree.relations →
    ∃ relationship, tree.vocabulary.relationship? name = some relationship ∧
      catalog.vocabulary? relationship.entity = some child.vocabulary
  scope : ∀ scope, tree.scope = some scope →
    scope.toList.all Text.isBlank = false ∧ scope.toList.contains '?' = false

theorem mem_store {key other : ConditionKey} {v w : Value}
    {conditions : List (ConditionKey × Value)} (h : (other, w) ∈ store key v conditions) :
    (other, w) ∈ conditions ∨ w = v ∧
      (other = key ∨ other.name = key.name ∧ ∃ u, (other, u) ∈ conditions) := by
  induction conditions with
  | nil =>
    cases List.mem_singleton.mp h
    exact .inr ⟨rfl, .inl rfl⟩
  | cons first rest ih =>
    obtain ⟨key', u⟩ := first
    unfold store at h
    split at h
    · rename_i hname
      rcases List.mem_cons.mp h with heq | hmem
      · cases heq
        exact .inr ⟨rfl, .inr ⟨hname, u, List.mem_cons_self⟩⟩
      · exact .inl (List.mem_cons_of_mem _ hmem)
    · rcases List.mem_cons.mp h with heq | hmem
      · cases heq
        exact .inl List.mem_cons_self
      · rcases ih hmem with hold | ⟨hvalue, hkey | ⟨hname, u', hold⟩⟩
        · exact .inl (List.mem_cons_of_mem _ hold)
        · exact .inr ⟨hvalue, .inl hkey⟩
        · exact .inr ⟨hvalue, .inr ⟨hname, u', List.mem_cons_of_mem _ hold⟩⟩

/-- A condition keeps the key it was first set with, and gets a value coerced for the key it was set with last. -/
theorem stored_of_mem_store {vocabulary : Vocabulary} {conditions : List (ConditionKey × Value)}
    {key : ConditionKey} {u v : Value} {name : String}
    (hkey : vocabulary.resolve? name = some key) (hvalue : u.isNull = false)
    (hcoerce : key.kind.coerce catalog.source.parseTemporal key.valueType u = .ok v)
    (hold : ∀ other w, (other, w) ∈ conditions → Stored catalog vocabulary other w)
    {other : ConditionKey} {w : Value} (hmem : (other, w) ∈ store key v conditions) :
    Stored catalog vocabulary other w := by
  rcases mem_store hmem with hmem | ⟨rfl, rfl | ⟨hname, u', hmem⟩⟩
  · exact hold other w hmem
  · exact ⟨⟨name, hkey⟩, name, other, u, hkey, rfl, hvalue, hcoerce⟩
  · exact ⟨(hold other u' hmem).resolved, name, key, u, hkey, hname.symm, hvalue, hcoerce⟩

theorem consistent_fresh {entity : String} {vocabulary : Vocabulary} (isProtected : Bool)
    (h : catalog.vocabulary? entity = some vocabulary) :
    Consistent catalog (fresh vocabulary isProtected) where
  vocabulary := by
    have hentity : vocabulary.entity = entity := Catalog.entity_of_vocabulary? h
    rw [← hentity] at h
    exact h
  conditions _ _ hmem := absurd hmem List.not_mem_nil
  relations _ _ hmem := absurd hmem List.not_mem_nil
  scope _ h := nomatch h

theorem NodeEdit.consistent (h : NodeEdit catalog tree tree') (hold : Consistent catalog tree) :
    Consistent catalog tree' := by
  cases h with
  | store hkey hvalue hcoerce =>
    refine { hold with conditions := fun other w hmem => ?_ }
    exact stored_of_mem_store hkey hvalue hcoerce hold.conditions hmem
  | unset key =>
    refine { hold with conditions := fun other w hmem => ?_ }
    exact hold.conditions other w (List.mem_filter.mp hmem).1
  | @setScope scope _ htext hbinds =>
    refine { hold with scope := fun other heq => ?_ }
    cases heq
    exact ⟨htext, hbinds⟩
  | clearScope => exact { hold with scope := fun _ heq => nomatch heq }
  | setProtected on => exact { hold with }
  | forget name =>
    refine { hold with relations := fun other child hmem => ?_ }
    exact hold.relations other child (List.mem_filter.mp hmem).1
  | resetAll => exact consistent_fresh tree.isProtected hold.vocabulary

theorem Consistent.target (h : Consistent catalog tree)
    (hchild : tree.relation catalog name = .ok child) :
    ∃ relationship, tree.vocabulary.relationship? name = some relationship ∧
      catalog.vocabulary? relationship.entity = some child.vocabulary := by
  rcases relation_eq_ok hchild with
    hexists | ⟨_, relationship, vocabulary, hrelationship, hfound, rfl⟩
  · exact h.relations name child (Vocabulary.mem_of_lookup hexists)
  · exact ⟨relationship, hrelationship, hfound⟩

theorem consistent_invariant : Invariant catalog (Consistent catalog) where
  fresh := consistent_fresh
  node := NodeEdit.consistent
  withChild {tree child child' name} hchild hvocabulary hold := by
    refine { hold with relations := fun other below hmem => ?_ }
    rcases mem_putChild hmem with heq | hmem
    · cases heq
      rw [hvocabulary]
      exact hold.target hchild
    · exact hold.relations other below hmem

theorem Reachable.consistent (h : Reachable catalog tree) : Everywhere (Consistent catalog) tree :=
  h.everywhere consistent_invariant

section Built

variable {registry : Registry} {source : SchemaSource} (hbuilt : catalog.Built registry source)
  (h : Consistent catalog tree)

include hbuilt h

theorem Consistent.assembled : tree.vocabulary.AssembledFrom registry source :=
  (hbuilt.describes _ (Catalog.mem_of_vocabulary? h.vocabulary)).assembled

theorem Consistent.stored {key : ConditionKey} {v : Value} (hmem : (key, v) ∈ tree.conditions) :
    Stored catalog tree.vocabulary key v ∧ tree.vocabulary.AssembledFrom registry source :=
  ⟨h.conditions key v hmem, h.assembled hbuilt⟩

end Built

theorem Consistent.relation (h : Consistent catalog tree) {relationship : Relationship}
    {target : Vocabulary} (hrelationship : tree.vocabulary.relationship? name = some relationship)
    (htarget : catalog.vocabulary? relationship.entity = some target)
    (hchild : tree.relation catalog name = .ok child) : child.vocabulary = target := by
  obtain ⟨relationship', hrelationship', hfound⟩ := h.target hchild
  cases hrelationship.symm.trans hrelationship'
  exact Option.some.inj (hfound.symm.trans htarget)

theorem relation_isOk {relationship : Relationship} {target : Vocabulary}
    (hrelationship : tree.vocabulary.relationship? name = some relationship)
    (htarget : catalog.vocabulary? relationship.entity = some target) :
    ∃ child, tree.relation catalog name = .ok child := by
  unfold ConditionTree.relation
  cases tree.child? name with
  | some child => exact ⟨child, rfl⟩
  | none =>
    refine ⟨fresh target tree.isProtected, ?_⟩
    simp only [hrelationship, Catalog.vocabulary_eq_ok_iff.mpr htarget, Except.map]

end ConditionTree

end SearchFilter
