import SearchFilter.Proofs.ConditionTree.Reapplying
import SearchFilter.Proofs.Vocabulary.Derivations
/-!
# Restoring a tree from its value

The value of a tree can be kept and later be applied to a fresh tree of the entity. What comes back is `restored`: the conditions of every node in their order, without protection and without the trees that have nothing to filter on. No fragment, value or list of relationships to join depends on what is missing, so all three are as they were.

The value is applied from the front to the back, and every name in it is new when its turn comes. A condition is therefore put behind those before it, and a relationship gets a fresh tree, to which the value of the old one is applied in the same way.

Names have to lead to what they are the names of. `Unambiguous` asks this of every canonical name of a vocabulary, and of the names of relationships that they are not names of conditions. No more is asked of kinds and modifiers.
-/

namespace SearchFilter

variable {registry : Registry} {source : SchemaSource} {catalog : Catalog}
  {vocabulary : Vocabulary} {key : ConditionKey} {v : Value} {name : String}

/-! ### Names that lead back -/

namespace Vocabulary

/-- Canonical names lead back to the conditions that they are the names of, and no relationship is named like a condition. -/
structure Unambiguous (vocabulary : Vocabulary) : Prop where
  canonical : ∀ name key, vocabulary.resolve? name = some key →
    ∃ other, vocabulary.resolve? key.name = some other ∧ other.column = key.column ∧
      other.modifiers = key.modifiers ∧ other.kind = key.kind
  plain : ∀ relationship ∈ vocabulary.relationships, vocabulary.resolve? relationship.name = none

theorem Unambiguous.resolve?_canonical (h : vocabulary.Unambiguous)
    (hassembled : vocabulary.AssembledFrom registry source)
    (hkey : vocabulary.resolve? name = some key) : vocabulary.resolve? key.name = some key := by
  obtain ⟨other, hother, hcolumn, hmodifiers, hkind⟩ := h.canonical name key hkey
  rw [hother, hassembled.eq_of_parts hkey hother hcolumn hmodifiers hkind]

theorem Unambiguous.steady (h : vocabulary.Unambiguous)
    (hassembled : vocabulary.AssembledFrom registry source) : vocabulary.Steady :=
  fun _ key hkey => ⟨key, h.resolve?_canonical hassembled hkey, rfl, rfl⟩

theorem Unambiguous.relationship?_eq_none (h : vocabulary.Unambiguous)
    (hkey : vocabulary.resolve? name = some key) : vocabulary.relationship? name = none := by
  by_contra hrelationship
  obtain ⟨relationship, hrelationship⟩ := Option.ne_none_iff_exists'.mp hrelationship
  have hname : relationship.name = name := by simpa using List.find?_some hrelationship
  have hnone := h.plain relationship (relationship?_mem hrelationship)
  rw [hname, hkey] at hnone
  cases hnone

/-- With the standard registry names lead back unless a column cuts a later one. -/
theorem AssembledFrom.unambiguous (h : vocabulary.AssembledFrom Registry.standard source)
    (hcuts : ∀ earlier later, [earlier, later].Sublist vocabulary.columns →
      ¬ earlier.column.Cuts later.column)
    (hplain : ∀ relationship ∈ vocabulary.relationships,
      vocabulary.resolve? relationship.name = none) : vocabulary.Unambiguous where
  canonical name key hkey := by
    obtain ⟨table, columns, _, _, hassembled⟩ := h
    obtain ⟨other, hother, _, _, rfl | ⟨hcut, hearlier⟩⟩ := hassembled.resolve?_name_cases hkey
    · exact ⟨other, hother, rfl, rfl, rfl⟩
    · exact absurd hcut (hcuts _ _ hearlier)
  plain := hplain

end Vocabulary

namespace ConditionTree

variable {tree child : ConditionTree} {relations : List (String × ConditionTree)}

/-! ### What comes back -/

mutual

/-- The tree without protection, without scopes and without the trees that have nothing to filter on. -/
def restored : ConditionTree → ConditionTree
  | ⟨vocabulary, conditions, relations, _, _⟩ =>
    ⟨vocabulary, conditions, restoredBelow relations, none, false⟩

def restoredBelow : List (String × ConditionTree) → List (String × ConditionTree)
  | [] => []
  | (name, child) :: rest =>
    if child.isEmpty then restoredBelow rest else (name, child.restored) :: restoredBelow rest

end

theorem restored_eq (tree : ConditionTree) :
    tree.restored =
      ⟨tree.vocabulary, tree.conditions, restoredBelow tree.relations, none, false⟩ := by
  cases tree
  rw [restored]

theorem restoredBelow_cons (name : String) (child : ConditionTree)
    (rest : List (String × ConditionTree)) :
    restoredBelow ((name, child) :: rest) =
      if child.isEmpty then restoredBelow rest else (name, child.restored) :: restoredBelow rest := by
  rw [restoredBelow]

/-- What passes over empty trees and sees no difference in the others does not see that trees are missing. -/
theorem restoredBelow_congr {β : Type} {f : List (String × ConditionTree) → β}
    (step : String → ConditionTree → β → β)
    (hcons : ∀ name child rest,
      f ((name, child) :: rest) = if child.isEmpty then f rest else step name child (f rest))
    (hsame : ∀ name child, (name, child) ∈ relations → child.restored.isEmpty = child.isEmpty ∧
      step name child.restored = step name child) :
    f (restoredBelow relations) = f relations := by
  induction relations with
  | nil => rw [restoredBelow]
  | cons first rest ih =>
    obtain ⟨name, child⟩ := first
    obtain ⟨hempty, hstep⟩ := hsame name child List.mem_cons_self
    have hrest := ih fun name child hmem => hsame name child (List.mem_cons_of_mem _ hmem)
    rw [restoredBelow_cons, hcons]
    split
    · exact hrest
    · rename_i hnonempty
      rw [hcons, hempty, if_neg hnonempty, hrest, hstep]

/-! ### What a tree tells -/

theorem isEmpty_restored (hscope : Everywhere (fun node => node.scope = none) tree) :
    tree.restored.isEmpty = tree.isEmpty := by
  induction hscope with
  | @mk tree hscope _ ih =>
    have hbelow : areEmpty (restoredBelow tree.relations) = areEmpty tree.relations := by
      refine restoredBelow_congr (fun _ _ _ => false) (fun name child rest => ?_)
        fun name child hmem => ⟨ih name child hmem, rfl⟩
      rw [areEmpty]
      cases child.isEmpty <;> rfl
    rw [isEmpty_eq, isEmpty_eq, restored_eq, hscope, hbelow]

theorem compile_restored (hscope : Everywhere (fun node => node.scope = none) tree) :
    tree.restored.compile = tree.compile := by
  induction hscope with
  | @mk tree hscope inside ih =>
    have hbelow : relationClauses (restoredBelow tree.relations) =
        relationClauses tree.relations := by
      refine restoredBelow_congr (fun _ child clauses =>
        if child.compile.isEmpty then clauses else child.compile.parenthesized :: clauses)
        (fun name child rest => ?_) fun name child hmem =>
          ⟨isEmpty_restored (inside name child hmem), by rw [ih name child hmem]⟩
      rw [relationClauses_cons]
      by_cases hempty : child.isEmpty = true
      · have hnone : child.compile.isEmpty = true := by
          rw [compile, clauses_of_isEmpty hempty]
          rfl
        rw [if_pos hempty, if_pos hnone]
      · rw [if_neg hempty]
    rw [compile, compile, clauses_eq, clauses_eq, restored_eq, hscope, hbelow]

theorem value_restored (hscope : Everywhere (fun node => node.scope = none) tree) :
    tree.restored.value = tree.value := by
  induction hscope with
  | @mk tree _ inside ih =>
    have hbelow : relationPairs (restoredBelow tree.relations) = relationPairs tree.relations :=
      restoredBelow_congr (fun name child pairs => (name, child.value) :: pairs)
        relationPairs_cons fun name child hmem =>
          ⟨isEmpty_restored (inside name child hmem), by rw [ih name child hmem]⟩
    rw [value_eq, value_eq, restored_eq, hbelow]

theorem includes_restored (hscope : Everywhere (fun node => node.scope = none) tree) :
    tree.restored.includes = tree.includes := by
  induction hscope with
  | @mk tree _ inside ih =>
    have hbelow : relationIncludes (restoredBelow tree.relations) =
        relationIncludes tree.relations :=
      restoredBelow_congr (fun name child nested => .mk name child.includes :: nested)
        (fun _ _ _ => by rw [relationIncludes]) fun name child hmem =>
          ⟨isEmpty_restored (inside name child hmem), by rw [ih name child hmem]⟩
    rw [includes_eq, includes_eq, restored_eq, hbelow]

/-! ### Applying a value -/

theorem applyPair_of_new (h : Restores catalog tree.vocabulary key v key) (hwritten : v ≠ .string "")
    (hnew : key.name ∉ activeNames tree.conditions) :
    applyPair catalog false (key.name, .value v) tree =
      .ok { tree with conditions := tree.conditions ++ [(key, v)] } := by
  rw [h.applyPair_eq, blankToNull_eq, isBlank_eq_false hwritten, if_neg Bool.false_ne_true, assign,
    h.active, if_neg Bool.false_ne_true, h.coerced, ← store_of_not_mem hnew]

theorem applyPairs_conditionPairs_of_new {rest : List (ConditionKey × Value)}
    (hrestores : ∀ key v, (key, v) ∈ rest →
      Restores catalog tree.vocabulary key v key ∧ v ≠ .string "")
    (hnames : (activeNames (tree.conditions ++ rest)).Nodup) :
    applyPairs catalog false (conditionPairs rest) tree =
      .ok { tree with conditions := tree.conditions ++ rest } := by
  induction rest generalizing tree with
  | nil => rw [conditionPairs, List.map_nil, applyPairs_nil, List.append_nil, mk_eq_self]
  | cons first rest ih =>
    obtain ⟨key, v⟩ := first
    obtain ⟨hrestored, hwritten⟩ := hrestores key v List.mem_cons_self
    have hcons : conditionPairs ((key, v) :: rest) = (key.name, .value v) :: conditionPairs rest :=
      rfl
    have hsplit : tree.conditions ++ (key, v) :: rest = tree.conditions ++ [(key, v)] ++ rest := by
      rw [List.append_assoc, List.singleton_append]
    have hrest := @ih { tree with conditions := tree.conditions ++ [(key, v)] }
      (fun key v hmem => hrestores key v (List.mem_cons_of_mem _ hmem)) (hsplit ▸ hnames)
    rw [hcons, applyPairs_cons, applyPair_of_new hrestored hwritten (not_mem_map_of_nodup hnames).1,
      Outcome.ok_bind, hrest, hsplit]

/-- The relationship leads to the entity of the tree, and applying the value of the tree to a fresh one gives the tree back. -/
structure RestoresFresh (catalog : Catalog) (vocabulary : Vocabulary) (name : String)
    (child : ConditionTree) : Prop where
  target : ∃ relationship, vocabulary.relationship? name = some relationship ∧
    catalog.vocabulary? relationship.entity = some child.vocabulary
  applied : applyParams catalog false child.value (fresh child.vocabulary false) =
    .ok child.restored

theorem applyPair_of_newRelation (h : RestoresFresh catalog tree.vocabulary name child)
    (hopen : tree.isProtected = false) (hnew : name ∉ tree.relations.map (·.1)) :
    applyPair catalog false (name, child.value) tree =
      .ok { tree with relations := tree.relations ++ [(name, child.restored)] } := by
  obtain ⟨relationship, hrelationship, htarget⟩ := h.target
  have hchild : tree.relation catalog name = .ok (fresh child.vocabulary false) := by
    simp only [relation, child?, Vocabulary.lookup_eq_none_iff.mpr hnew, hrelationship,
      Catalog.vocabulary_eq_ok_iff.mpr htarget, Outcome.map_ok, hopen]
  have htrusted : tree.withholds false name = false := rfl
  simp only [applyPair, hrelationship, htrusted, Bool.false_eq_true, if_false, hchild,
    Outcome.ok_bind, h.applied]
  rw [withChild, putChild_of_not_mem hnew]
  rfl

theorem applyPairs_relationPairs_of_new {rest : List (String × ConditionTree)}
    (hrestores : ∀ name child, (name, child) ∈ rest →
      RestoresFresh catalog tree.vocabulary name child)
    (hopen : tree.isProtected = false) (hnames : ((tree.relations ++ rest).map (·.1)).Nodup) :
    applyPairs catalog false (relationPairs rest) tree =
      .ok { tree with relations := tree.relations ++ restoredBelow rest } := by
  induction rest generalizing tree with
  | nil => rw [relationPairs, applyPairs_nil, restoredBelow, List.append_nil, mk_eq_self]
  | cons first rest ih =>
    obtain ⟨name, child⟩ := first
    have hlater := fun name child hmem => hrestores name child (List.mem_cons_of_mem _ hmem)
    rw [relationPairs_cons, restoredBelow_cons]
    split
    · exact ih hlater hopen (hnames.sublist
        (((List.sublist_cons_self _ rest).append_left tree.relations).map _))
    · have hsplit : tree.relations ++ (name, child.restored) :: restoredBelow rest =
          tree.relations ++ [(name, child.restored)] ++ restoredBelow rest := by
        rw [List.append_assoc, List.singleton_append]
      have hrest := @ih { tree with relations := tree.relations ++ [(name, child.restored)] } hlater
        hopen (by simpa using hnames)
      rw [applyPairs_cons, applyPair_of_newRelation (hrestores name child List.mem_cons_self) hopen
        (not_mem_map_of_nodup hnames).1, Outcome.ok_bind, hrest, hsplit]

theorem applyParams_value_fresh (hconsistent : Everywhere (Consistent catalog) tree)
    (hunrepeated : Everywhere Unrepeated tree)
    (hrestores : Everywhere (fun node => ∀ key v, (key, v) ∈ node.conditions →
      Restores catalog node.vocabulary key v key ∧ v ≠ .string "") tree) :
    applyParams catalog false tree.value (fresh tree.vocabulary false) = .ok tree.restored := by
  induction hconsistent with
  | @mk tree here _ ih =>
    have hconditions := @applyPairs_conditionPairs_of_new catalog (fresh tree.vocabulary false)
      tree.conditions hrestores.here hunrepeated.here.conditions
    have hbelow : ∀ name child, (name, child) ∈ tree.relations →
        RestoresFresh catalog tree.vocabulary name child :=
      fun name child hmem => ⟨here.relations name child hmem,
        ih name child hmem (hunrepeated.inside hmem) (hrestores.inside hmem)⟩
    have hrelations := @applyPairs_relationPairs_of_new catalog
      { fresh tree.vocabulary false with conditions := tree.conditions } tree.relations hbelow rfl
      hunrepeated.here.relations
    rw [value_eq, applyParams, applyPairs_append]
    change applyPairs catalog false (conditionPairs tree.conditions) (fresh tree.vocabulary false)
      >>= _ = _
    rw [hconditions, Outcome.ok_bind, restored_eq]
    exact hrelations

/-! ### Reachable trees -/

theorem Consistent.restores_self (hbuilt : catalog.Built registry source)
    (h : Consistent catalog tree) (hnames : tree.vocabulary.Unambiguous)
    (hmem : (key, v) ∈ tree.conditions) : Restores catalog tree.vocabulary key v key := by
  obtain ⟨hstored, hassembled⟩ := h.stored hbuilt hmem
  obtain ⟨name, hkey⟩ := hstored.resolved
  have hback := hnames.resolve?_canonical hassembled hkey
  exact hstored.restores (hnames.steady hassembled) (hnames.relationship?_eq_none hback) hback rfl

/-- Where names are unambiguous, the value of a tree without scopes and without empty texts can be applied to a fresh tree of the entity, and gives a tree with the same fragment, the same value and the same relationships to join. -/
theorem apply_value_fresh {policies : List PolicyLists}
    (hbuild : Catalog.build registry source policies = .ok catalog)
    (hnames : ∀ vocabulary ∈ catalog.vocabularies, vocabulary.Unambiguous)
    (htree : Reachable catalog tree) (hscope : Everywhere (fun node => node.scope = none) tree)
    (hwritten : Everywhere Written tree) :
    ∃ start, forEntity catalog tree.entity false = .ok start ∧
      start.apply catalog tree.value = .ok tree.restored ∧
      tree.restored.compile = tree.compile ∧ tree.restored.value = tree.value ∧
      tree.restored.includes = tree.includes := by
  have hbuilt := Catalog.built_of_build hbuild
  have hconsistent := htree.consistent
  have hrestores : Everywhere (fun node => ∀ key v, (key, v) ∈ node.conditions →
      Restores catalog node.vocabulary key v key ∧ v ≠ .string "") tree := by
    refine (hconsistent.and hwritten).imp fun node ⟨hnode, hwritten⟩ key v hmem => ?_
    have hunambiguous := hnames _ (Catalog.mem_of_vocabulary? hnode.vocabulary)
    exact ⟨hnode.restores_self hbuilt hunambiguous hmem, hwritten key v hmem⟩
  exact ⟨fresh tree.vocabulary false, forEntity_eq_ok hconsistent.here.vocabulary false,
    applyParams_value_fresh hconsistent htree.unrepeated hrestores, compile_restored hscope,
    value_restored hscope, includes_restored hscope⟩

theorem unambiguous_blog : ∀ vocabulary ∈ Catalog.blog.vocabularies, vocabulary.Unambiguous := by
  intro vocabulary hmem
  have hlength : ∀ vocabulary ∈ Catalog.blog.vocabularies, vocabulary.columns.length ≤ 1 := by
    decide +kernel
  have hplain : ∀ vocabulary ∈ Catalog.blog.vocabularies,
      ∀ relationship ∈ vocabulary.relationships,
        vocabulary.resolve? relationship.name = none := by decide +kernel
  have hbuilt := Catalog.built_of_build Catalog.ofSchema_blogSchema
  refine (hbuilt.describes vocabulary hmem).assembled.unambiguous (fun earlier later hsub => ?_)
    (hplain vocabulary hmem)
  exact absurd (hsub.length_le.trans (hlength vocabulary hmem)) (Nat.not_succ_le_self 1)

/-- A key of a user and one of the author of the posts. The drafts were followed, but nothing is asked of them. -/
theorem apply_value_fresh_blog : ∃ start tree, Reachable Catalog.blog tree ∧
    tree.relations.map (·.1) = ["drafts", "posts"] ∧
    tree.compile.template = "(\"users\".\"key\" = ?) AND (((\"users\".\"key\" != ?)))" ∧
    forEntity Catalog.blog "User" false = .ok start ∧
    start.apply Catalog.blog tree.value = .ok tree.restored ∧
    tree.restored.compile = tree.compile := by
  have hparts : (forEntity Catalog.blog "User" false >>= ConditionTree.apply Catalog.blog
      (.mapping [("drafts", .mapping []), ("key", .value (.string "a")),
        ("posts", .mapping [("author", .mapping [("key_not", .value (.string "b"))])])])).toOption.map
          (fun tree => (tree.relations.map (·.1), tree.compile.template, tree.entity,
            tree.all fun node => node.scope.isNone && node.conditions.all fun condition =>
              !isBlank condition.2)) =
      some (["drafts", "posts"],
        "(\"users\".\"key\" = ?) AND (((\"users\".\"key\" != ?)))", "User", true) := by
    decide +kernel
  obtain ⟨tree, htree, hparts⟩ := Option.map_eq_some_iff.mp hparts
  obtain ⟨hrelations, hparts⟩ := Prod.mk.inj hparts
  obtain ⟨htemplate, hparts⟩ := Prod.mk.inj hparts
  obtain ⟨hentity, hnodes⟩ := Prod.mk.inj hparts
  have hreachable := Reachable.of_apply (Outcome.toOption_eq_some_iff.mp htree)
  have hchecked := (everywhere_of_all hnodes).imp fun node hnode =>
    (Bool.and_eq_true _ _).mp hnode
  have hscope : Everywhere (fun node => node.scope = none) tree :=
    hchecked.imp fun node hnode => Option.isNone_iff_eq_none.mp hnode.1
  have hwritten : Everywhere Written tree := by
    refine hchecked.imp fun node hnode key v hmem => ?_
    rintro rfl
    exact absurd (List.all_eq_true.mp hnode.2 _ hmem) (by simp [isBlank])
  obtain ⟨start, hstart, happly, hcompile, _⟩ :=
    apply_value_fresh Catalog.ofSchema_blogSchema unambiguous_blog hreachable hscope hwritten
  rw [hentity] at hstart
  exact ⟨start, tree, hreachable, hrelations, htemplate, hstart, happly, hcompile⟩

end ConditionTree

end SearchFilter
