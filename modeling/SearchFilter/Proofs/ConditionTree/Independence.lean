import Mathlib.Data.List.Pairwise
import Mathlib.Logic.Function.Basic
import SearchFilter.Proofs.ConditionTree.Emptiness
import SearchFilter.Proofs.ConditionTree.Writing
/-!
# The order of independent pairs

Pairs of bulk input that are about different conditions and relationships may come in any order. They succeed or fail together, and what is asked for is the same. Only the order in which it is asked differs, because conditions stand in the order in which they became active.

A pair looks at the slot that its name leads to and at nothing else that a pair can change. So what it comes to, its `Effect`, can be told before any of the pairs is applied, and independent pairs are nothing but their effects one after another. A `View` is a node without the order of its lists. On views, effects at different slots commute.
-/

namespace SearchFilter

/-- What a name in bulk input leads to. -/
inductive Slot where
  | condition (name : String)
  | relationship (name : String)
deriving DecidableEq

def Vocabulary.slot? (vocabulary : Vocabulary) (name : String) : Option Slot :=
  match vocabulary.relationship? name with
  | some _ => some (.relationship name)
  | none => (vocabulary.resolve? name).map fun key => .condition key.name

namespace ConditionTree

variable {catalog : Catalog} {untrusted : Bool} {tree tree' child : ConditionTree} {name : String}
  {pair : String × Params}
  {pairs pairs' : List (String × Params)}

/-! ### Effects -/

/-- What a pair does to a node. -/
inductive Effect where
  | idle
  | give (key : ConditionKey) (w : Option Value)
  | put (name : String) (child : ConditionTree)

namespace Effect

def run : Effect → ConditionTree → ConditionTree
  | idle, tree => tree
  | give key w, tree => tree.give key w
  | put name child, tree => tree.withChild name child

def slot? : Effect → Option Slot
  | idle => none
  | give key _ => some (.condition key.name)
  | put name _ => some (.relationship name)

def runAll (effects : List Effect) (tree : ConditionTree) : ConditionTree :=
  effects.foldl (fun tree effect => effect.run tree) tree

end Effect

def conditionEffect (catalog : Catalog) (untrusted : Bool) (tree : ConditionTree) (name : String)
    (params : Params) : Except ConditionError Effect := do
  let key ← tree.resolve name
  if tree.withholds untrusted key.name then return .idle
  else
    match params with
    | .mapping _ => .error (.invalidValue key.name .mappingForValue)
    | .value v => return .give key (← key.coerced catalog (blankToNull v))

def effect (catalog : Catalog) (untrusted : Bool) (tree : ConditionTree) (pair : String × Params) :
    Except ConditionError Effect :=
  match tree.vocabulary.relationship? pair.1 with
  | some relationship =>
    if tree.withholds untrusted pair.1 then do
      let target ← catalog.vocabulary relationship.entity
      screen catalog target pair.2
      return .idle
    else do
      let child ← tree.relation catalog pair.1
      return .put pair.1 (← applyParams catalog untrusted pair.2 child)
  | none => conditionEffect catalog untrusted tree pair.1 pair.2

theorem applyCondition_eq (name : String) (params : Params) (tree : ConditionTree) :
    tree.applyCondition catalog untrusted name params =
      (conditionEffect catalog untrusted tree name params).map fun effect => effect.run tree := by
  cases hkey : tree.resolve name with
  | error e =>
    rw [applyCondition, conditionEffect, hkey]
    rfl
  | ok key =>
    rw [conditionEffect, hkey, Outcome.ok_bind]
    cases params with
    | mapping pairs =>
      rw [applyCondition, hkey, Outcome.ok_bind]
      split <;> rfl
    | value v =>
      rw [resolve_eq_ok_iff] at hkey
      rw [applyCondition_value hkey, set_eq hkey]
      split
      · rfl
      · dsimp only
        cases key.coerced catalog (blankToNull v) <;> rfl

theorem applyPair_eq (pair : String × Params) (tree : ConditionTree) :
    applyPair catalog untrusted pair tree =
      (effect catalog untrusted tree pair).map fun effect => effect.run tree := by
  unfold applyPair effect
  cases tree.vocabulary.relationship? pair.1 with
  | some relationship =>
    cases tree.withholds untrusted pair.1 with
    | true =>
      simp only [if_true, Outcome.map_bind]
      rfl
    | false =>
      simp only [Bool.false_eq_true, if_false, Outcome.map_bind]
      rfl
  | none => exact applyCondition_eq pair.1 pair.2 tree

theorem relation_congr (hvocabulary : tree'.vocabulary = tree.vocabulary)
    (hprotected : tree'.isProtected = tree.isProtected)
    (hchild : tree'.child? name = tree.child? name) :
    tree'.relation catalog name = tree.relation catalog name := by
  simp only [relation, unknown, entity, hvocabulary, hprotected, hchild]

/-- The effect of a pair depends on what the node is and on the tree of the relationship that the pair names. -/
theorem effect_congr (hvocabulary : tree'.vocabulary = tree.vocabulary)
    (hprotected : tree'.isProtected = tree.isProtected)
    (hchild : ∀ relationship, tree.vocabulary.relationship? pair.1 = some relationship →
      tree'.child? pair.1 = tree.child? pair.1) :
    effect catalog untrusted tree' pair = effect catalog untrusted tree pair := by
  have hwithholds : ∀ name, tree'.withholds untrusted name = tree.withholds untrusted name :=
    fun name => by rw [withholds, hvocabulary, withholds]
  have hresolve : tree'.resolve pair.1 = tree.resolve pair.1 := by
    rw [resolve, unknown, entity, hvocabulary]
    rfl
  unfold effect
  rw [hvocabulary, hwithholds]
  cases hrelationship : tree.vocabulary.relationship? pair.1 with
  | none => simp only [conditionEffect, hresolve, hwithholds]
  | some relationship =>
    rw [relation_congr hvocabulary hprotected (hchild relationship hrelationship)]

theorem slot?_effect {e : Effect} (h : effect catalog untrusted tree pair = .ok e) {slot : Slot}
    (hslot : e.slot? = some slot) : tree.vocabulary.slot? pair.1 = some slot := by
  unfold effect at h
  split at h
  · rename_i relationship hrelationship
    split at h
    · obtain ⟨_, _, h⟩ := Outcome.bind_eq_ok_iff.mp h
      obtain ⟨_, _, h⟩ := Outcome.bind_eq_ok_iff.mp h
      cases h
      cases hslot
    · obtain ⟨_, _, h⟩ := Outcome.bind_eq_ok_iff.mp h
      obtain ⟨_, _, h⟩ := Outcome.bind_eq_ok_iff.mp h
      cases h
      simp only [Vocabulary.slot?, hrelationship]
      exact hslot
  · rename_i hplain
    obtain ⟨key, hkey, h⟩ := Outcome.bind_eq_ok_iff.mp h
    rw [resolve_eq_ok_iff] at hkey
    split at h
    · cases h
      cases hslot
    · split at h
      · cases h
      · obtain ⟨w, _, h⟩ := Outcome.bind_eq_ok_iff.mp h
        cases h
        simp only [Vocabulary.slot?, hplain, hkey, Option.map_some]
        exact hslot

/-! ### Independent pairs -/

/-- The names of the pairs lead to different slots. -/
def Independent (vocabulary : Vocabulary) (pair other : String × Params) : Prop :=
  ∀ slot, vocabulary.slot? pair.1 = some slot → vocabulary.slot? other.1 ≠ some slot

instance (vocabulary : Vocabulary) (pair other : String × Params) :
    Decidable (Independent vocabulary pair other) :=
  inferInstanceAs (Decidable (∀ slot ∈ vocabulary.slot? pair.1, slot ∉ vocabulary.slot? other.1))

theorem effect_run {other : String × Params} {e : Effect}
    (h : effect catalog untrusted tree pair = .ok e)
    (hindependent : Independent tree.vocabulary pair other) :
    effect catalog untrusted (e.run tree) other = effect catalog untrusted tree other := by
  cases e with
  | idle => rfl
  | give key w =>
    rw [Effect.run, give_eq]
    exact effect_congr rfl rfl fun _ _ => rfl
  | put name child =>
    refine effect_congr rfl rfl fun relationship hrelationship => ?_
    have hother : tree.vocabulary.slot? other.1 = some (.relationship other.1) := by
      rw [Vocabulary.slot?, hrelationship]
    have hne : other.1 ≠ name := by
      rintro rfl
      exact hindependent _ (slot?_effect h rfl) hother
    rw [Effect.run, child?_withChild, if_neg hne]

def effects (catalog : Catalog) (untrusted : Bool) (tree : ConditionTree)
    (pairs : List (String × Params)) : List Effect :=
  pairs.filterMap fun pair => (effect catalog untrusted tree pair).toOption

/-- Independent pairs succeed if each of them would by itself, and then have their effects one after another. -/
theorem applyPairs_eq_ok_iff (hindependent : pairs.Pairwise (Independent tree.vocabulary)) :
    applyPairs catalog untrusted pairs tree = .ok tree' ↔
      (∀ pair ∈ pairs, ∃ e, effect catalog untrusted tree pair = .ok e) ∧
        tree' = Effect.runAll (effects catalog untrusted tree pairs) tree := by
  induction pairs generalizing tree with
  | nil =>
    rw [applyPairs_nil, Except.ok.injEq, eq_comm]
    exact (and_iff_right fun _ hmem => absurd hmem List.not_mem_nil).symm
  | cons pair rest ih =>
    obtain ⟨hfirst, hrest⟩ := List.pairwise_cons.mp hindependent
    rw [applyPairs_cons, applyPair_eq, List.forall_mem_cons]
    cases he : effect catalog untrusted tree pair with
    | error error => simp
    | ok e =>
      have hvocabulary : (e.run tree).vocabulary = tree.vocabulary := by
        cases e with
        | give key w => rw [Effect.run, give_eq]
        | idle | put => rfl
      have hsame : ∀ other ∈ rest,
          effect catalog untrusted (e.run tree) other = effect catalog untrusted tree other :=
        fun other hmem => effect_run he (hfirst other hmem)
      have heffects : effects catalog untrusted (e.run tree) rest =
          effects catalog untrusted tree rest :=
        List.filterMap_congr fun other hmem => by rw [hsame other hmem]
      have hcons : effects catalog untrusted tree (pair :: rest) =
          e :: effects catalog untrusted tree rest := by
        rw [effects, List.filterMap_cons, he]
        rfl
      have hstays : (∀ other ∈ rest, ∃ e', effect catalog untrusted (e.run tree) other = .ok e') ↔
          ∀ other ∈ rest, ∃ e', effect catalog untrusted tree other = .ok e' :=
        forall₂_congr fun other hmem => by rw [hsame other hmem]
      rw [Outcome.map_ok, Outcome.ok_bind, ih (hvocabulary ▸ hrest), heffects, hstays, hcons]
      exact and_congr_left fun _ => (and_iff_right ⟨e, rfl⟩).symm

/-! ### Views -/

/-- A node without the order of its lists. -/
structure View where
  vocabulary : Vocabulary
  scope : Option String
  isProtected : Bool
  active? : String → Option (ConditionKey × Value)
  child? : String → Option ConditionTree

def view (tree : ConditionTree) : View where
  vocabulary := tree.vocabulary
  scope := tree.scope
  isProtected := tree.isProtected
  active? name := active? name tree.conditions
  child? := tree.child?

/-- An active condition keeps its key when it is given a value. -/
def Effect.onView : Effect → View → View
  | idle, view => view
  | give key w, view =>
    let active := ((view.active? key.name).map (·.1)).getD key
    { view with active? := Function.update view.active? key.name (w.map fun w => (active, w)) }
  | put name child, view => { view with child? := Function.update view.child? name (some child) }

theorem view_run (e : Effect) (tree : ConditionTree) : (e.run tree).view = e.onView tree.view := by
  cases e with
  | idle => rfl
  | give key w =>
    have hactive : (fun name => active? name (tree.give key w).conditions) =
        Function.update (fun name => active? name tree.conditions) key.name
          (w.map fun w => (((active? key.name tree.conditions).map (·.1)).getD key, w)) := by
      funext name
      rw [active?_give, Function.update_apply]
    rw [Effect.run, give_eq]
    exact congrArg (View.mk _ _ _ · _) hactive
  | put name child =>
    have hchild : (tree.withChild name child).child? =
        Function.update tree.child? name (some child) := by
      funext other
      rw [child?_withChild, Function.update_apply]
    exact congrArg (View.mk _ _ _ _ ·) hchild

theorem onView_comm {e e' : Effect} (h : ∀ slot, e.slot? = some slot → e'.slot? ≠ some slot)
    (view : View) : e'.onView (e.onView view) = e.onView (e'.onView view) := by
  cases e with
  | idle => rfl
  | give key w =>
    cases e' with
    | give key' w' =>
      have hne : key.name ≠ key'.name := fun heq => h _ rfl (by rw [Effect.slot?, heq])
      simp only [Effect.onView, Function.update_of_ne hne, Function.update_of_ne hne.symm,
        Function.update_comm hne]
    | idle | put => rfl
  | put name child =>
    cases e' with
    | put name' child' =>
      have hne : name ≠ name' := fun heq => h _ rfl (by rw [Effect.slot?, heq])
      simp only [Effect.onView, Function.update_comm hne]
    | idle | give => rfl

theorem view_runAll (effects : List Effect) (tree : ConditionTree) :
    (Effect.runAll effects tree).view =
      effects.foldl (fun view e => e.onView view) tree.view := by
  rw [Effect.runAll]
  exact (List.foldl_hom view fun tree e => (view_run e tree).symm).symm

theorem view_runAll_perm (hindependent : pairs.Pairwise (Independent tree.vocabulary))
    (hperm : pairs.Perm pairs') :
    (Effect.runAll (effects catalog untrusted tree pairs) tree).view =
      (Effect.runAll (effects catalog untrusted tree pairs') tree).view := by
  have hcomm : (effects catalog untrusted tree pairs).Pairwise fun e e' =>
      ∀ view, e'.onView (e.onView view) = e.onView (e'.onView view) := by
    refine hindependent.filterMap _ fun pair other hapart e he e' he' => onView_comm ?_
    rw [Outcome.toOption_eq_some_iff] at he he'
    exact fun slot hslot hslot' =>
      hapart slot (slot?_effect he hslot) (slot?_effect he' hslot')
  rw [view_runAll, view_runAll]
  refine (hperm.filterMap _).foldl_eq' (fun e hmem e' hmem' view => ?_) tree.view
  exact hcomm.forall_of_forall_of_flip (fun _ _ _ => rfl)
    (hcomm.imp fun h view => (h view).symm) hmem hmem' view

/-! ### Trees that look the same -/

theorem mem_iff_active? {conditions : List (ConditionKey × Value)}
    (hnames : (activeNames conditions).Nodup) {condition : ConditionKey × Value} :
    condition ∈ conditions ↔ active? condition.1.name conditions = some condition := by
  constructor
  · intro hmem
    obtain ⟨before, after, rfl⟩ := List.append_of_mem hmem
    refine List.find?_eq_some_iff_append.mpr ⟨decide_eq_true rfl, before, after, rfl, ?_⟩
    intro other hother
    have hne : other.1.name ≠ condition.1.name := fun heq =>
      (not_mem_map_of_nodup hnames).1 (List.mem_map.mpr ⟨other, hother, heq⟩)
    simp [hne]
  · exact List.mem_of_find?_eq_some

theorem mem_iff_lookup {relations : List (String × ConditionTree)}
    (hnames : (relations.map (·.1)).Nodup) :
    (name, child) ∈ relations ↔ relations.lookup name = some child := by
  constructor
  · intro hmem
    obtain ⟨before, after, rfl⟩ := List.append_of_mem hmem
    exact lookup_append_cons (not_mem_map_of_nodup hnames).1
  · exact Vocabulary.mem_of_lookup

section

variable (hview : tree.view = tree'.view) (h : Unrepeated tree) (h' : Unrepeated tree')

include hview h h'

theorem conditions_perm : tree.conditions.Perm tree'.conditions := by
  rw [List.perm_ext_iff_of_nodup h.conditions.of_map h'.conditions.of_map]
  intro condition
  have hactive : active? condition.1.name tree.conditions =
      active? condition.1.name tree'.conditions :=
    congrFun (congrArg View.active? hview) condition.1.name
  rw [mem_iff_active? h.conditions, mem_iff_active? h'.conditions, hactive]

theorem relations_perm : tree.relations.Perm tree'.relations := by
  rw [List.perm_ext_iff_of_nodup h.relations.of_map h'.relations.of_map]
  intro ⟨name, child⟩
  have hchild : tree.relations.lookup name = tree'.relations.lookup name :=
    congrFun (congrArg View.child? hview) name
  rw [mem_iff_lookup h.relations, mem_iff_lookup h'.relations, hchild]

end

/-- The trees differ in the order of the conditions and relationships at the top and in nothing else. -/
structure SameUpToOrder (catalog : Catalog) (tree tree' : ConditionTree) : Prop where
  values : ∀ path name, getAt catalog path name tree = getAt catalog path name tree'
  scopes : ∀ path, (tree.descendant? path).map scope = (tree'.descendant? path).map scope
  includes : ∀ path node node', tree.descendant? path = some node →
    tree'.descendant? path = some node' → node.includes.Perm node'.includes
  clauses : tree.clauses.Perm tree'.clauses
  /-- So their templates are the same, too. -/
  children : ∀ name, tree.child? name = tree'.child? name

theorem sameUpToOrder (hview : tree.view = tree'.view) (h : Unrepeated tree)
    (h' : Unrepeated tree') : SameUpToOrder catalog tree tree' := by
  have hvocabulary : tree.vocabulary = tree'.vocabulary := congrArg View.vocabulary hview
  have hscope : tree.scope = tree'.scope := congrArg View.scope hview
  have hchild : ∀ name, tree.child? name = tree'.child? name :=
    congrFun (congrArg View.child? hview)
  have hbelow : ∀ step path,
      tree.descendant? (step :: path) = tree'.descendant? (step :: path) := by
    intro step path
    rw [descendant?_cons, descendant?_cons, hchild]
  have hrelations := relations_perm hview h h'
  constructor
  · intro path name
    cases path with
    | nil =>
      have hvalue : ∀ name, valueOf? name tree.conditions = valueOf? name tree'.conditions := by
        intro name
        rw [valueOf?_eq_active?, valueOf?_eq_active?]
        exact congrArg (Option.map (·.2)) (congrFun (congrArg View.active? hview) name)
      rw [getAt_nil, getAt_nil]
      simp only [ConditionTree.get, resolve, unknown, entity, hvocabulary, hvalue]
    | cons step path =>
      rw [getAt_cons, getAt_cons, relation_congr hvocabulary (congrArg View.isProtected hview)
        (hchild step)]
  · intro path
    cases path with
    | nil => exact congrArg some hscope
    | cons step path => rw [hbelow]
  · intro path node node' hnode hnode'
    cases path with
    | nil =>
      cases hnode
      cases hnode'
      rw [includes_eq, includes_eq, relationIncludes_eq, relationIncludes_eq]
      exact (hrelations.filter _).map _
    | cons step path =>
      rw [hbelow, hnode', Option.some.injEq] at hnode
      rw [hnode]
  · rw [clauses_eq, clauses_eq, relationClauses_eq, relationClauses_eq, hscope]
    exact (((conditions_perm hview h h').map _).append ((hrelations.filter _).map _)).append_right _
  · exact hchild

/-- Independent pairs succeed or fail together in any order, and what they make of a tree is the same up to the order in which it is asked for. -/
theorem apply_perm (htree : Reachable catalog tree)
    (hindependent : pairs.Pairwise (Independent tree.vocabulary)) (hperm : pairs.Perm pairs') :
    ((∃ first, tree.apply catalog (.mapping pairs) = .ok first) ↔
        ∃ second, tree.apply catalog (.mapping pairs') = .ok second) ∧
      ∀ first second, tree.apply catalog (.mapping pairs) = .ok first →
        tree.apply catalog (.mapping pairs') = .ok second → SameUpToOrder catalog first second := by
  have hindependent' : pairs'.Pairwise (Independent tree.vocabulary) :=
    hperm.pairwise hindependent fun hapart slot hslot hslot' => hapart slot hslot' hslot
  have happly : ∀ pairs, tree.apply catalog (.mapping pairs) =
      applyPairs catalog tree.isProtected pairs tree := by
    intro pairs
    rw [ConditionTree.apply, applyParams, Bool.false_or]
  constructor
  · simp only [happly, applyPairs_eq_ok_iff hindependent, applyPairs_eq_ok_iff hindependent',
      exists_and_left, exists_eq, and_true, hperm.mem_iff]
  · intro first second hfirst hsecond
    have hview : first.view = second.view := by
      rw [happly, applyPairs_eq_ok_iff hindependent] at hfirst
      rw [happly, applyPairs_eq_ok_iff hindependent'] at hsecond
      rw [hfirst.2, hsecond.2, view_runAll_perm hindependent hperm]
    have hunrepeated : ∀ {params tree'}, tree.apply catalog params = .ok tree' →
        Unrepeated tree' := fun happly =>
      ((applyParams_edits _ happly).everywhere unrepeated_invariant htree.unrepeated).here
    exact sameUpToOrder hview (hunrepeated hfirst) (hunrepeated hsecond)

/-- A key, its absence and posts, in the one order and in the other. -/
theorem apply_perm_blog : ∃ tree pairs first second, Reachable Catalog.blog tree ∧
    pairs = [("key", .value (.string "a")),
      ("posts", .mapping [("author", .mapping [("key", .value (.string "b"))])]),
      ("key_nil", .value (.bool true))] ∧
    pairs.Pairwise (Independent tree.vocabulary) ∧
    tree.apply Catalog.blog (.mapping pairs) = .ok first ∧
    tree.apply Catalog.blog (.mapping pairs.reverse) = .ok second ∧
    first.ownNames = ["key_equals", "key_is_null"] ∧
    second.ownNames = ["key_is_null", "key_equals"] ∧
    SameUpToOrder Catalog.blog first second := by
  let pairs : List (String × Params) := [("key", .value (.string "a")),
    ("posts", .mapping [("author", .mapping [("key", .value (.string "b"))])]),
    ("key_nil", .value (.bool true))]
  have hparts : ((forEntity Catalog.blog "User" false).toOption.bind fun tree =>
      (tree.apply Catalog.blog (.mapping pairs)).toOption.bind fun first =>
        (tree.apply Catalog.blog (.mapping pairs.reverse)).toOption.map fun second =>
          (decide (pairs.Pairwise (Independent tree.vocabulary)),
            first.ownNames, second.ownNames)) =
      some (true, ["key_equals", "key_is_null"], ["key_is_null", "key_equals"]) := by
    decide +kernel
  obtain ⟨tree, htree, hparts⟩ := Option.bind_eq_some_iff.mp hparts
  obtain ⟨first, hfirst, hparts⟩ := Option.bind_eq_some_iff.mp hparts
  obtain ⟨second, hsecond, hparts⟩ := Option.map_eq_some_iff.mp hparts
  rw [Outcome.toOption_eq_some_iff] at htree hfirst hsecond
  simp only [Prod.mk.injEq, decide_eq_true_eq] at hparts
  obtain ⟨hindependent, hnames, hnames'⟩ := hparts
  have hreachable := Reachable.start htree
  exact ⟨tree, pairs, first, second, hreachable, rfl, hindependent, hfirst, hsecond, hnames,
    hnames', (apply_perm hreachable hindependent pairs.reverse_perm.symm).2 first second hfirst
      hsecond⟩

end ConditionTree

end SearchFilter
