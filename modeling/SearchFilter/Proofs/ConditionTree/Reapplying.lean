import SearchFilter.Proofs.ConditionTree.Emptiness
import SearchFilter.Proofs.ConditionTree.EntryPoints
import SearchFilter.Proofs.ConditionTree.Groups
import SearchFilter.Proofs.ConditionTree.WellFormed
/-!
# Applying the value of a tree to the tree

The value of a tree is input in bulk, and it names everything that the tree holds in the order in which it is held. Each stored value is coerced to itself, each name has its place, and nothing is stored anywhere else, so applying the value to the tree itself changes nothing. The exception is the empty text: `set` stores it, and bulk input makes the condition inactive. `withoutBlanks` is what is left then.

The value uses canonical names, so they have to lead back to conditions of these names and must not be names of relationships. `LeadsBack` says this of the conditions that are active, and of no others.
-/

namespace SearchFilter

namespace ConditionTree

variable {source : SchemaSource} {catalog : Catalog} {tree : ConditionTree}
  {vocabulary : Vocabulary} {key : ConditionKey} {v : Value} {name : String}

/-! ### What a tree tells -/

theorem mk_eq_self (tree : ConditionTree) :
    ⟨tree.vocabulary, tree.conditions, tree.relations, tree.scope, tree.isProtected⟩ = tree := by
  cases tree
  rfl

theorem value_eq (tree : ConditionTree) :
    tree.value = .mapping (conditionPairs tree.conditions ++ relationPairs tree.relations) := by
  cases tree
  rw [value]

theorem relationPairs_cons (name : String) (child : ConditionTree)
    (rest : List (String × ConditionTree)) :
    relationPairs ((name, child) :: rest) =
      if child.isEmpty then relationPairs rest else (name, child.value) :: relationPairs rest := by
  rw [relationPairs]

/-! ### Blank conditions -/

def isBlank : Value → Bool
  | .string s => s.isEmpty
  | _ => false

def nonblank (conditions : List (ConditionKey × Value)) : List (ConditionKey × Value) :=
  conditions.filter fun condition => !isBlank condition.2

mutual

def withoutBlanks : ConditionTree → ConditionTree
  | ⟨vocabulary, conditions, relations, scope, isProtected⟩ =>
    ⟨vocabulary, nonblank conditions, withoutBlanksBelow relations, scope, isProtected⟩

def withoutBlanksBelow : List (String × ConditionTree) → List (String × ConditionTree)
  | [] => []
  | (name, child) :: rest => (name, child.withoutBlanks) :: withoutBlanksBelow rest

end

theorem withoutBlanks_eq (tree : ConditionTree) :
    tree.withoutBlanks =
      { tree with
        conditions := nonblank tree.conditions
        relations := withoutBlanksBelow tree.relations } := by
  cases tree
  rw [withoutBlanks]

theorem withoutBlanksBelow_eq_self {relations : List (String × ConditionTree)}
    (h : ∀ name child, (name, child) ∈ relations → child.withoutBlanks = child) :
    withoutBlanksBelow relations = relations := by
  induction relations with
  | nil => rw [withoutBlanksBelow]
  | cons first rest ih =>
    obtain ⟨name, child⟩ := first
    rw [withoutBlanksBelow, h name child List.mem_cons_self,
      ih fun name child hmem => h name child (List.mem_cons_of_mem _ hmem)]

/-- No condition of the node holds the empty text. -/
def Written (node : ConditionTree) : Prop :=
  ∀ key v, (key, v) ∈ node.conditions → v ≠ .string ""

theorem isBlank_eq_false (h : v ≠ .string "") : isBlank v = false := by
  cases v with
  | string s =>
    rw [isBlank, ← Bool.not_eq_true, String.isEmpty_iff]
    exact fun heq => h (by rw [heq])
  | null | bool _ | integer _ | float _ | timestamp _ | array _ => rfl

theorem withoutBlanks_eq_self (h : Everywhere Written tree) : tree.withoutBlanks = tree := by
  induction h with
  | @mk tree here _ ih =>
    have hconditions : nonblank tree.conditions = tree.conditions := by
      refine List.filter_eq_self.mpr fun ⟨key, v⟩ hmem => ?_
      rw [isBlank_eq_false (here key v hmem), Bool.not_false]
    rw [withoutBlanks_eq, hconditions, withoutBlanksBelow_eq_self ih, mk_eq_self]

theorem withoutBlanks_of_isEmpty {P : ConditionTree → Prop} (h : Everywhere P tree)
    (hempty : tree.isEmpty = true) : tree.withoutBlanks = tree := by
  refine withoutBlanks_eq_self ?_
  induction h with
  | @mk tree _ _ ih =>
    obtain ⟨hconditions, _, hbelow⟩ := isEmpty_eq_true_iff.mp hempty
    refine .mk (fun key v hmem => ?_) fun name child hmem => ih name child hmem
      (hbelow name child hmem)
    rw [hconditions] at hmem
    exact absurd hmem List.not_mem_nil

/-! ### Conditions -/

/-- Assigning the value to the name in bulk puts the value where it is. -/
structure Restores (catalog : Catalog) (vocabulary : Vocabulary) (key : ConditionKey)
    (v : Value) (other : ConditionKey) : Prop where
  plain : vocabulary.relationship? key.name = none
  resolved : vocabulary.resolve? key.name = some other
  name : other.name = key.name
  coerced : other.kind.coerce catalog.source.parseTemporal other.valueType v = .ok v
  active : v.isNull = false

/-- Where canonical names keep kinds and types, a stored value is one that the name of its key restores. -/
theorem Stored.restores {other : ConditionKey} (h : Stored catalog vocabulary key v)
    (hsteady : vocabulary.Steady) (hplain : vocabulary.relationship? key.name = none)
    (hother : vocabulary.resolve? key.name = some other) (hname : other.name = key.name) :
    Restores catalog vocabulary key v other := by
  obtain ⟨name, hkey⟩ := h.resolved
  obtain ⟨other', hother', hkind, htype⟩ := hsteady name key hkey
  rw [hother] at hother'
  cases hother'
  have hadmits := h.admits hsteady
  refine ⟨hplain, hother, hname, ?_, hadmits.isNull_eq_false⟩
  rw [hkind, htype]
  exact hadmits.coerce_eq

theorem blankToNull_eq (v : Value) : blankToNull v = if isBlank v then .null else v := by
  cases v with
  | string s => rw [blankToNull, isBlank]
  | null | bool | integer | float | timestamp | array => rfl

theorem Restores.applyPair_eq {other : ConditionKey}
    (h : Restores catalog tree.vocabulary key v other) :
    applyPair catalog false (key.name, .value v) tree =
      tree.assign catalog other (blankToNull v) := by
  have hopen : tree.withholds false other.name = false := rfl
  simp only [applyPair, h.plain]
  rw [applyCondition_value h.resolved, hopen, if_neg Bool.false_ne_true, ConditionTree.set,
    resolve_eq_ok_iff.mpr h.resolved, Outcome.ok_bind]

theorem applyPair_of_restores {other : ConditionKey} {before after : List (ConditionKey × Value)}
    (h : Restores catalog tree.vocabulary key v other)
    (htree : tree.conditions = before ++ (key, v) :: after)
    (hnames : (activeNames tree.conditions).Nodup) :
    applyPair catalog false (key.name, .value v) tree =
      .ok { tree with conditions := before ++ nonblank [(key, v)] ++ after } := by
  rw [h.applyPair_eq, blankToNull_eq]
  cases hblank : isBlank v with
  | true =>
    have hkept : nonblank [(key, v)] = [] := by simp [nonblank, hblank]
    rw [if_pos rfl, assign, Value.isNull, if_pos rfl,
      unset_eq_of_append_cons htree hnames h.name.symm, hkept, List.append_nil]
  | false =>
    have hkept : nonblank [(key, v)] = [(key, v)] := by simp [nonblank, hblank]
    have hbefore : other.name ∉ activeNames before := by
      rw [htree] at hnames
      rw [h.name]
      exact (not_mem_map_of_nodup hnames).1
    have hstore : store other v tree.conditions = before ++ (key, v) :: after := by
      rw [htree, store_append_cons h.name.symm hbefore]
    rw [if_neg Bool.false_ne_true, assign, h.active, if_neg Bool.false_ne_true, h.coerced, hkept,
      List.append_assoc, List.singleton_append, ← hstore]

theorem applyPairs_conditionPairs {before rest : List (ConditionKey × Value)}
    (hrestores : ∀ key v, (key, v) ∈ rest → ∃ other, Restores catalog tree.vocabulary key v other)
    (htree : tree.conditions = before ++ rest) (hnames : (activeNames tree.conditions).Nodup) :
    applyPairs catalog false (conditionPairs rest) tree =
      .ok { tree with conditions := before ++ nonblank rest } := by
  induction rest generalizing before tree with
  | nil =>
    have hnil : nonblank [] = [] := rfl
    rw [conditionPairs, List.map_nil, applyPairs_nil, hnil, ← htree, mk_eq_self]
  | cons first rest ih =>
    obtain ⟨key, v⟩ := first
    obtain ⟨other, hother⟩ := hrestores key v List.mem_cons_self
    have hsub : (before ++ nonblank [(key, v)] ++ rest).Sublist tree.conditions := by
      rw [htree, List.append_assoc]
      exact (List.filter_sublist.append_right rest).append_left before
    have hnames' : (activeNames (before ++ nonblank [(key, v)] ++ rest)).Nodup :=
      hnames.sublist (hsub.map _)
    have hcons : conditionPairs ((key, v) :: rest) = (key.name, .value v) :: conditionPairs rest :=
      rfl
    have hkept : nonblank ((key, v) :: rest) = nonblank [(key, v)] ++ nonblank rest :=
      List.filter_append [(key, v)] rest
    have hrest : applyPairs catalog false (conditionPairs rest)
        { tree with conditions := before ++ nonblank [(key, v)] ++ rest } =
          .ok { tree with conditions := before ++ nonblank [(key, v)] ++ nonblank rest } :=
      ih (fun key v hmem => hrestores key v (List.mem_cons_of_mem _ hmem)) rfl hnames'
    rw [hcons, applyPairs_cons, applyPair_of_restores hother htree hnames, Outcome.ok_bind, hrest,
      hkept, List.append_assoc]

/-! ### Relationships -/

/-- The tree of the relationship is the only one of its name, and its own value can be applied to it. -/
structure RestoresBelow (catalog : Catalog) (vocabulary : Vocabulary) (name : String)
    (child : ConditionTree) : Prop where
  named : ∃ relationship, vocabulary.relationship? name = some relationship
  empty : child.isEmpty = true → child.withoutBlanks = child
  applied : applyParams catalog false child.value child = .ok child.withoutBlanks

theorem applyPair_of_restoresBelow {child : ConditionTree}
    {before after : List (String × ConditionTree)}
    (h : RestoresBelow catalog tree.vocabulary name child)
    (htree : tree.relations = before ++ (name, child) :: after)
    (hbefore : name ∉ before.map (·.1)) :
    applyPair catalog false (name, child.value) tree =
      .ok { tree with relations := before ++ (name, child.withoutBlanks) :: after } := by
  obtain ⟨relationship, hrelationship⟩ := h.named
  have hchild : tree.relation catalog name = .ok child := by
    rw [relation, child?, htree, lookup_append_cons hbefore]
  have hopen : tree.withholds false name = false := rfl
  simp only [applyPair, hrelationship, hopen, Bool.false_eq_true, if_false, hchild,
    Outcome.ok_bind, h.applied]
  rw [withChild, htree, putChild_append_cons hbefore]
  rfl

theorem applyPairs_relationPairs {before rest : List (String × ConditionTree)}
    (hrestores : ∀ name child, (name, child) ∈ rest →
      RestoresBelow catalog tree.vocabulary name child)
    (htree : tree.relations = before ++ rest) (hnames : (tree.relations.map (·.1)).Nodup) :
    applyPairs catalog false (relationPairs rest) tree =
      .ok { tree with relations := before ++ withoutBlanksBelow rest } := by
  induction rest generalizing before tree with
  | nil => rw [relationPairs, applyPairs_nil, withoutBlanksBelow, ← htree, mk_eq_self]
  | cons first rest ih =>
    obtain ⟨name, child⟩ := first
    have hbelow := hrestores name child List.mem_cons_self
    have hlater := fun name child hmem => hrestores name child (List.mem_cons_of_mem _ hmem)
    have hsplit : before ++ (name, child.withoutBlanks) :: withoutBlanksBelow rest =
        before ++ [(name, child.withoutBlanks)] ++ withoutBlanksBelow rest := by
      rw [List.append_assoc, List.singleton_append]
    rw [relationPairs_cons, withoutBlanksBelow, hsplit]
    split
    · -- an empty tree is passed over, and it has no conditions to lose
      rename_i hempty
      rw [hbelow.empty hempty]
      exact ih hlater (by rw [htree, List.append_assoc, List.singleton_append]) hnames
    · have hbefore : name ∉ before.map (·.1) := by
        rw [htree] at hnames
        exact (not_mem_map_of_nodup hnames).1
      have hrest : applyPairs catalog false (relationPairs rest)
          { tree with relations := before ++ (name, child.withoutBlanks) :: rest } =
            .ok { tree with relations :=
              before ++ [(name, child.withoutBlanks)] ++ withoutBlanksBelow rest } := by
        refine ih hlater (by rw [List.append_assoc, List.singleton_append]) ?_
        simpa [htree] using hnames
      rw [applyPairs_cons, applyPair_of_restoresBelow hbelow htree hbefore, Outcome.ok_bind, hrest]

/-! ### The whole tree -/

/-- The canonical names of the conditions of the node lead to conditions of these names, and no relationship has one of them. -/
def LeadsBack (node : ConditionTree) : Prop :=
  ∀ key v, (key, v) ∈ node.conditions → node.vocabulary.relationship? key.name = none ∧
    ∀ other, node.vocabulary.resolve? key.name = some other → other.name = key.name

theorem Consistent.restores (hbuilt : catalog.Built Registry.standard source)
    (h : Consistent catalog tree) (hleads : LeadsBack tree) (hmem : (key, v) ∈ tree.conditions) :
    ∃ other, Restores catalog tree.vocabulary key v other := by
  obtain ⟨hstored, hassembled⟩ := h.stored hbuilt hmem
  obtain ⟨name, hkey⟩ := hstored.resolved
  obtain ⟨other, hother, _⟩ := hassembled.steady name key hkey
  obtain ⟨hplain, hname⟩ := hleads key v hmem
  exact ⟨other, hstored.restores hassembled.steady hplain hother (hname other hother)⟩

theorem applyParams_value (hbuilt : catalog.Built Registry.standard source)
    (hconsistent : Everywhere (Consistent catalog) tree) (hunrepeated : Everywhere Unrepeated tree)
    (hopen : Everywhere (fun node => node.isProtected = false) tree)
    (hleads : Everywhere LeadsBack tree) :
    applyParams catalog false tree.value tree = .ok tree.withoutBlanks := by
  induction hconsistent with
  | @mk tree here inside ih =>
    have hconditions : applyPairs catalog false (conditionPairs tree.conditions) tree =
        .ok { tree with conditions := nonblank tree.conditions } :=
      @applyPairs_conditionPairs catalog tree [] tree.conditions
        (fun key v hmem => here.restores hbuilt hleads.here hmem) rfl hunrepeated.here.conditions
    have hbelow : ∀ name child, (name, child) ∈ tree.relations →
        RestoresBelow catalog tree.vocabulary name child := by
      intro name child hmem
      obtain ⟨relationship, hrelationship, _⟩ := here.relations name child hmem
      exact ⟨⟨relationship, hrelationship⟩, withoutBlanks_of_isEmpty (inside name child hmem),
        ih name child hmem (hunrepeated.inside hmem) (hopen.inside hmem) (hleads.inside hmem)⟩
    have hrelations : applyPairs catalog false (relationPairs tree.relations)
        { tree with conditions := nonblank tree.conditions } = .ok tree.withoutBlanks := by
      rw [withoutBlanks_eq]
      exact @applyPairs_relationPairs catalog { tree with conditions := nonblank tree.conditions }
        [] tree.relations hbelow rfl hunrepeated.here.relations
    rw [value_eq, applyParams, hopen.here, Bool.or_self, applyPairs_append, hconditions,
      Outcome.ok_bind, hrelations]

/-- In a tree without protection the value can be applied to the tree itself. It leaves everything as it is, apart from conditions that hold the empty text, which become inactive. -/
theorem apply_value {policies : List PolicyLists}
    (hbuild : Catalog.build Registry.standard source policies = .ok catalog)
    (htree : Reachable catalog tree)
    (hopen : Everywhere (fun node => node.isProtected = false) tree)
    (hleads : Everywhere LeadsBack tree) :
    tree.apply catalog tree.value = .ok tree.withoutBlanks ∧
      (Everywhere Written tree → tree.apply catalog tree.value = .ok tree) := by
  have happly : tree.apply catalog tree.value = .ok tree.withoutBlanks :=
    applyParams_value (Catalog.built_of_build hbuild) htree.consistent htree.unrepeated hopen hleads
  refine ⟨happly, fun hwritten => ?_⟩
  rw [happly, withoutBlanks_eq_self hwritten]

theorem everywhere_of_relations {P : ConditionTree → Prop} (here : P tree)
    (hrelations : tree.relations.length = 0) : Everywhere P tree := by
  refine .mk here fun name child hmem => ?_
  rw [List.length_eq_zero_iff.mp hrelations] at hmem
  exact absurd hmem List.not_mem_nil

theorem apply_value_account : ∃ catalog tree,
    Catalog.ofSchema Registry.standard namesSchema = .ok catalog ∧ Reachable catalog tree ∧
      tree.compile.template = "(LOWER(\"accounts\".\"name\") LIKE ?)" ∧
      tree.apply catalog tree.value = .ok tree := by
  have hparts : (treeOf namesSchema "Account" "name_downcase_contains" (.string "fox")).map
      (fun found => (found.2.compile.template, found.2.isProtected, found.2.relations.length,
        found.2.conditions.all fun condition => !isBlank condition.2 &&
          (found.2.vocabulary.relationship? condition.1.name).isNone &&
            (found.2.vocabulary.resolve? condition.1.name).map (·.name) ==
              some condition.1.name)) =
        some ("(LOWER(\"accounts\".\"name\") LIKE ?)", false, 0, true) := by
    decide +kernel
  obtain ⟨⟨catalog, tree⟩, hfound, hparts⟩ := Option.map_eq_some_iff.mp hparts
  obtain ⟨htemplate, hparts⟩ := Prod.mk.inj hparts
  obtain ⟨hprotected, hparts⟩ := Prod.mk.inj hparts
  obtain ⟨hrelations, hconditions⟩ := Prod.mk.inj hparts
  obtain ⟨hbuild, htree⟩ := reachable_of_treeOf hfound
  have hchecked : ∀ key v, (key, v) ∈ tree.conditions → isBlank v = false ∧
      tree.vocabulary.relationship? key.name = none ∧
        (tree.vocabulary.resolve? key.name).map (·.name) = some key.name := by
    intro key v hmem
    have hcheck := List.all_eq_true.mp hconditions (key, v) hmem
    rw [Bool.and_eq_true, Bool.and_eq_true, Bool.not_eq_true', Option.isNone_iff_eq_none,
      beq_iff_eq] at hcheck
    exact ⟨hcheck.1.1, hcheck.1.2, hcheck.2⟩
  have hleads : LeadsBack tree := by
    intro key v hmem
    obtain ⟨_, hplain, hname⟩ := hchecked key v hmem
    refine ⟨hplain, fun other hother => ?_⟩
    rw [hother] at hname
    exact Option.some.inj hname
  have hwritten : Written tree := by
    rintro key v hmem rfl
    exact absurd (hchecked key _ hmem).1 (by decide)
  exact ⟨catalog, tree, hbuild, htree, htemplate, (apply_value hbuild htree
    (everywhere_of_relations hprotected hrelations)
    (everywhere_of_relations hleads hrelations)).2 (everywhere_of_relations hwritten hrelations)⟩

/-- The empty text that was stored is taken for none, so the value of a tree does not always leave the tree as it is. -/
theorem not_forall_apply_value : ¬ ∀ (source : SchemaSource) (policies : List PolicyLists)
    (catalog : Catalog) (tree : ConditionTree),
    Catalog.build Registry.standard source policies = .ok catalog → Reachable catalog tree →
    Everywhere (fun node => node.isProtected = false) tree →
    ∃ tree', tree.apply catalog tree.value = .ok tree' ∧ tree'.compile = tree.compile := by
  intro hall
  have hparts : (treeOf namesSchema "Account" "name_contains" (.string "")).map
      (fun found => (found.2.isProtected, found.2.relations.length, found.2.compile.template,
        (found.2.apply found.1 found.2.value).toOption.map (·.compile.template))) =
        some (false, 0, "(\"accounts\".\"name\" LIKE ?)", some "") := by decide +kernel
  obtain ⟨⟨catalog, tree⟩, hfound, hparts⟩ := Option.map_eq_some_iff.mp hparts
  obtain ⟨hprotected, hparts⟩ := Prod.mk.inj hparts
  obtain ⟨hrelations, hparts⟩ := Prod.mk.inj hparts
  obtain ⟨htemplate, hparts⟩ := Prod.mk.inj hparts
  obtain ⟨hbuild, htree⟩ := reachable_of_treeOf hfound
  obtain ⟨tree', happly, hcompile⟩ := hall _ _ catalog tree hbuild htree
    (everywhere_of_relations hprotected hrelations)
  simp only [happly, Except.toOption, Option.map_some, hcompile, htemplate] at hparts
  exact absurd hparts (by decide)

end ConditionTree

end SearchFilter
