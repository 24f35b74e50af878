import Mathlib.Logic.Relation
import SearchFilter.Proofs.ConditionTree.Pairs
/-!
# Edits and reachable trees

Every operation on a tree is a chain of edits. An edit changes one node: it stores a coerced value, makes a condition inactive, changes the scope or the protection, forgets trees below, or makes a tree for a relationship. `NodeEdit` lists what can happen to a node apart from the trees below it, `Edit` carries that to the nodes below, and `Edits` is a chain.

Operations that fail part of the way are chains, too, because the trees made on the way stay. So what every edit preserves holds of every reachable tree, and no later proof goes through the operations again.
-/

namespace SearchFilter

namespace ConditionTree

/-- What can happen to a node while the trees below it stay or are forgotten. -/
inductive NodeEdit (catalog : Catalog) : ConditionTree → ConditionTree → Prop
  | store {tree : ConditionTree} {name : String} {key : ConditionKey} {v w : Value}
      (hkey : tree.vocabulary.resolve? name = some key) (hvalue : v.isNull = false)
      (hcoerce : key.kind.coerce catalog.source.parseTemporal key.valueType v = .ok w) :
      NodeEdit catalog tree { tree with conditions := store key w tree.conditions }
  | unset {tree : ConditionTree} (key : ConditionKey) : NodeEdit catalog tree (tree.unset key)
  | setScope {tree : ConditionTree} {scope : String} (hopen : tree.isProtected = false)
      (htext : scope.toList.all Text.isBlank = false) (hbinds : scope.toList.contains '?' = false) :
      NodeEdit catalog tree { tree with scope := some scope }
  | clearScope {tree : ConditionTree} : NodeEdit catalog tree tree.clearScope
  | setProtected {tree : ConditionTree} (on : Bool) : NodeEdit catalog tree (tree.setProtected on)
  | forget {tree : ConditionTree} (name : String) :
      NodeEdit catalog tree
        { tree with relations := tree.relations.filter fun (other, _) => other ≠ name }
  | resetAll {tree : ConditionTree} : NodeEdit catalog tree tree.resetAll

/-- What can happen to a tree at one of its nodes. -/
inductive Edit (catalog : Catalog) : ConditionTree → ConditionTree → Prop
  | node {tree tree' : ConditionTree} (h : NodeEdit catalog tree tree') : Edit catalog tree tree'
  | follow {tree child : ConditionTree} {name : String}
      (hchild : tree.relation catalog name = .ok child) :
      Edit catalog tree (tree.withChild name child)
  | inside {tree child child' : ConditionTree} {name : String}
      (hchild : tree.relation catalog name = .ok child)
      (h : Edit catalog child child') : Edit catalog tree (tree.withChild name child')

def Edits (catalog : Catalog) : ConditionTree → ConditionTree → Prop :=
  Relation.ReflTransGen (Edit catalog)

variable {catalog : Catalog} {tree tree' child child' : ConditionTree}

theorem Edits.refl (tree : ConditionTree) : Edits catalog tree tree := Relation.ReflTransGen.refl

theorem Edits.trans {tree'' : ConditionTree} (h : Edits catalog tree tree')
    (h' : Edits catalog tree' tree'') : Edits catalog tree tree'' :=
  Relation.ReflTransGen.trans h h'

theorem Edits.ofNode (h : NodeEdit catalog tree tree') : Edits catalog tree tree' :=
  Relation.ReflTransGen.single (.node h)

/-- A chain below a relationship is a chain of the whole tree. Its first edit makes the tree of the relationship. -/
theorem Edits.below {name : String} (hchild : tree.relation catalog name = .ok child)
    (h : Edits catalog child child') : Edits catalog tree (tree.withChild name child') := by
  induction h with
  | refl => exact Relation.ReflTransGen.single (.follow hchild)
  | @tail middle last _ hedit ih =>
    have hinside : Edit catalog (tree.withChild name middle)
        ((tree.withChild name middle).withChild name last) :=
      .inside relation_withChild hedit
    rw [withChild_withChild] at hinside
    exact Relation.ReflTransGen.tail ih hinside

/-! ### Operations on a node -/

theorem assign_edits {key : ConditionKey} {name : String} {v : Value}
    (hkey : tree.vocabulary.resolve? name = some key) (h : tree.assign catalog key v = .ok tree') :
    Edits catalog tree tree' := by
  unfold assign at h
  split at h
  · cases h
    exact .ofNode (.unset key)
  · rename_i hvalue
    split at h
    · rename_i w hcoerce
      cases h
      exact .ofNode (.store hkey (Bool.eq_false_iff.mpr hvalue) hcoerce)
    · cases h

theorem set_edits {name : String} {v : Value} (h : tree.set catalog name v = .ok tree') :
    Edits catalog tree tree' := by
  obtain ⟨key, hkey, h⟩ := Outcome.bind_eq_ok_iff.mp h
  exact assign_edits (resolve_eq_ok_iff.mp hkey) h

theorem setScope_edits {scope : String} (h : tree.setScope scope = .ok tree') :
    Edits catalog tree tree' := by
  unfold setScope at h
  split at h
  · cases h
  · rename_i hopen
    split at h
    · cases h
      exact .ofNode .clearScope
    · rename_i htext
      split at h
      · cases h
      · rename_i hbinds
        cases h
        exact .ofNode (.setScope (Bool.eq_false_iff.mpr hopen) (Bool.eq_false_iff.mpr htext)
          (Bool.eq_false_iff.mpr hbinds))

theorem reset_edits {name : String} (h : tree.reset name = .ok tree') :
    Edits catalog tree tree' := by
  unfold reset at h
  split at h
  · cases h
    exact .ofNode (.forget name)
  · obtain ⟨key, _, rfl⟩ := Outcome.map_eq_ok_iff.mp h
    exact .ofNode (.unset key)

/-! ### Bulk input -/

theorem applyValue_edits {untrusted : Bool} {v : Value}
    (h : tree.applyValue untrusted v = .ok tree') :
    Edits catalog tree tree' := by
  unfold applyValue at h
  split at h
  · cases h
    exact .refl tree
  · split at h
    · cases h
    · exact setScope_edits h
  · cases h

theorem applyCondition_edits {untrusted : Bool} {name : String} {params : Params}
    (h : tree.applyCondition catalog untrusted name params = .ok tree') :
    Edits catalog tree tree' := by
  obtain ⟨key, hkey, h⟩ := Outcome.bind_eq_ok_iff.mp h
  split at h
  · cases h
    exact .refl tree
  · split at h
    · cases h
    · split at h
      · cases h
        exact .ofNode (.unset key)
      · exact assign_edits (resolve_eq_ok_iff.mp hkey) h
    · exact assign_edits (resolve_eq_ok_iff.mp hkey) h

theorem inputRelation_edits : InputRelation catalog (fun _ => True) (fun _ => Edits catalog) where
  parts _ _ := trivial
  refl _ tree := .refl tree
  trans h h' := h.trans h'
  weaken h := h
  value _ h := applyValue_edits h
  condition _ h := applyCondition_edits h
  below _ hchild h := .below hchild h

theorem applyParams_edits {untrusted : Bool} (params : Params) {tree tree' : ConditionTree}
    (h : applyParams catalog untrusted params tree = .ok tree') : Edits catalog tree tree' :=
  inputRelation_edits.applyParams params trivial h

theorem applyPairs_edits {untrusted : Bool} (pairs : List (String × Params))
    {tree tree' : ConditionTree} (h : applyPairs catalog untrusted pairs tree = .ok tree') :
    Edits catalog tree tree' :=
  inputRelation_edits.applyPairs pairs (fun _ _ => trivial) h

theorem applyPair_edits {untrusted : Bool} {pair : String × Params} {tree tree' : ConditionTree}
    (h : applyPair catalog untrusted pair tree = .ok tree') : Edits catalog tree tree' := by
  rw [← applyPairs_singleton] at h
  exact applyPairs_edits [pair] h

/-! ### Changes anywhere in a tree -/

theorem follow_edits {name : String} {tree' : ConditionTree}
    (h : (tree.relation catalog name).map (fun child => tree.withChild name child) = .ok tree') :
    Edits catalog tree tree' := by
  obtain ⟨child, hchild, rfl⟩ := Outcome.map_eq_ok_iff.mp h
  exact .below hchild (.refl child)

end ConditionTree

open ConditionTree

variable {catalog : Catalog}

theorem Change.run_edits {change : Change} {tree tree' : ConditionTree}
    (h : change.run catalog tree = .ok tree') :
    Edits catalog tree tree' := by
  cases change with
  | set name v => exact set_edits h
  | reset name => exact reset_edits h
  | resetAll =>
    cases h
    exact .ofNode .resetAll
  | follow name => exact follow_edits h
  | setScope scope => exact setScope_edits h
  | clearScope =>
    cases h
    exact .ofNode .clearScope
  | setProtected on =>
    cases h
    exact .ofNode (.setProtected on)
  | apply params => exact applyParams_edits params h

theorem Change.runAt_nil_of_ok {change : Change} {tree tree' : ConditionTree}
    (h : change.run catalog tree = .ok tree') :
    change.runAt catalog [] tree = (tree', .ok ()) := by
  unfold Change.runAt visit
  rw [h]
  rfl

theorem Change.runAt_nil_of_error {change : Change} {tree : ConditionTree} {e : ConditionError}
    (h : change.run catalog tree = .error e) : change.runAt catalog [] tree = (tree, .error e) := by
  unfold Change.runAt visit
  rw [h]
  rfl

namespace ConditionTree

/-- What holds between the node at the end of a path before and after holds between the whole trees, if it holds below a relationship only when it holds above. -/
theorem visit_induction {α : Type} {R : ConditionTree → ConditionTree → Prop}
    (hrefl : ∀ tree, R tree tree)
    (hbelow : ∀ {tree child child' : ConditionTree} {name : String},
      tree.relation catalog name = .ok child → R child child' → R tree (tree.withChild name child'))
    {action : ConditionTree → Except ConditionError (ConditionTree × α)}
    (haction : ∀ {node node' : ConditionTree} {a : α}, action node = .ok (node', a) → R node node')
    (path : List String) (tree : ConditionTree) : R tree (tree.visit catalog action path).1 := by
  induction path generalizing tree with
  | nil =>
    unfold visit
    split
    · rename_i node' a haction'
      exact haction haction'
    · exact hrefl tree
  | cons name path ih =>
    unfold visit
    split
    · exact hrefl tree
    · rename_i child hchild
      exact hbelow hchild (ih child)

end ConditionTree

theorem Change.runAt_induction {R : ConditionTree → ConditionTree → Prop} {change : Change}
    (hrefl : ∀ tree, R tree tree)
    (hbelow : ∀ {tree child child' : ConditionTree} {name : String},
      tree.relation catalog name = .ok child → R child child' → R tree (tree.withChild name child'))
    (hrun : ∀ {node node' : ConditionTree}, change.run catalog node = .ok node' → R node node')
    (path : List String) (tree : ConditionTree) : R tree (change.runAt catalog path tree).1 := by
  refine visit_induction hrefl hbelow (fun {node node' a} h => ?_) path tree
  obtain ⟨changed, hchanged, heq⟩ := Outcome.map_eq_ok_iff.mp h
  cases heq
  exact hrun hchanged

theorem Change.runAt_edits (path : List String) (change : Change) (tree : ConditionTree) :
    Edits catalog tree (change.runAt catalog path tree).1 :=
  Change.runAt_induction Edits.refl Edits.below Change.run_edits path tree

namespace ConditionTree

/-- The trees a program can come to hold: it starts from a tree without conditions, makes changes anywhere in it, whether they succeed or fail, and may take a tree from below. -/
inductive Reachable (catalog : Catalog) : ConditionTree → Prop
  | start {entity : String} {isProtected : Bool} {tree : ConditionTree}
      (h : forEntity catalog entity isProtected = .ok tree) : Reachable catalog tree
  | change {tree : ConditionTree} (path : List String) (change : Change)
      (h : Reachable catalog tree) :
      Reachable catalog (change.runAt catalog path tree).1
  | descend {tree child : ConditionTree} {name : String} (h : Reachable catalog tree)
      (hchild : (name, child) ∈ tree.relations) : Reachable catalog child

theorem Reachable.run {tree tree' : ConditionTree} (change : Change) (h : Reachable catalog tree)
    (hrun : change.run catalog tree = .ok tree') : Reachable catalog tree' := by
  have hchange := h.change [] change
  rw [Change.runAt_nil_of_ok hrun] at hchange
  exact hchange

theorem Reachable.of_apply {entity : String} {isProtected : Bool} {params : Params}
    {tree : ConditionTree}
    (h : (forEntity catalog entity isProtected >>= ConditionTree.apply catalog params) =
      .ok tree) : Reachable catalog tree := by
  obtain ⟨start, hstart, happly⟩ := Outcome.bind_eq_ok_iff.mp h
  exact (Reachable.start hstart).run (.apply params) happly

end ConditionTree

end SearchFilter
