import SearchFilter.Proofs.ConditionTree.Filling
import SearchFilter.Proofs.ConditionTree.Order
/-!
# Setting, reading and resetting

Many names lead to one condition, and a node keeps its conditions in a list whose order shows in the statement that it is compiled to. So three things have to be known of an assignment: which names read the new value, where it stands in the list, and that nothing else is different.

An assignment has two parts. A value is coerced, which may fail and does not depend on the tree, and the outcome is given to the condition, which cannot fail. `ConditionKey.coerced` is the first part and `give` the second. Every way to change a condition is a `give`, so `valueOf?_give` and `placed_give` are all there is to say about values and places, and the laws at the end only put them together.
-/

namespace SearchFilter

/-- What a condition takes a value for: null is none at all, and everything else is coerced. -/
def ConditionKey.coerced (catalog : Catalog) (key : ConditionKey) (v : Value) :
    Except ConditionError (Option Value) :=
  if v.isNull then .ok none
  else
    match key.kind.coerce catalog.source.parseTemporal key.valueType v with
    | .ok w => .ok (some w)
    | .error e => .error (.invalidValue key.name (.coercion e))

namespace ConditionTree

/-- The tree with the value for the condition, or with the condition inactive. -/
def give (key : ConditionKey) (w : Option Value) (tree : ConditionTree) : ConditionTree :=
  match w with
  | none => tree.unset key
  | some w => { tree with conditions := store key w tree.conditions }

variable {catalog : Catalog} {tree tree' : ConditionTree} {name other : String}
  {key otherKey : ConditionKey} {v : Value} {w : Option Value}
  {conditions conditions' : List (ConditionKey × Value)}

/-! ### Operations on conditions -/

theorem assign_eq : tree.assign catalog key v = (key.coerced catalog v).map (tree.give key) := by
  unfold assign ConditionKey.coerced
  split
  · rfl
  · cases key.kind.coerce catalog.source.parseTemporal key.valueType v <;> rfl

theorem set_eq (hkey : tree.vocabulary.resolve? name = some key) :
    tree.set catalog name v = (key.coerced catalog v).map (tree.give key) := by
  rw [ConditionTree.set, resolve_eq_ok_iff.mpr hkey, Outcome.ok_bind, assign_eq]

theorem reset_eq (hplain : tree.vocabulary.relationship? name = none)
    (hkey : tree.vocabulary.resolve? name = some key) :
    tree.reset name = .ok (tree.give key none) := by
  rw [ConditionTree.reset, hplain, resolve_eq_ok_iff.mpr hkey]
  rfl

theorem get_eq (hkey : tree.vocabulary.resolve? name = some key) :
    tree.get name = .ok (valueOf? key.name tree.conditions) := by
  rw [ConditionTree.get, resolve_eq_ok_iff.mpr hkey]
  rfl

/-! ### The value afterwards -/

theorem give_eq (key : ConditionKey) (w : Option Value) (tree : ConditionTree) :
    tree.give key w = { tree with conditions := (tree.give key w).conditions } := by
  cases w <;> rfl

theorem valueOf?_eq_none_iff : valueOf? name conditions = none ↔ name ∉ activeNames conditions := by
  induction conditions with
  | nil => simp [valueOf?, activeNames]
  | cons first rest ih =>
    obtain ⟨first, u⟩ := first
    rw [valueOf?, activeNames_cons, List.mem_cons, not_or, ← ih]
    by_cases hname : first.name = name
    · simp [hname]
    · simp [hname, Ne.symm hname]

/-- The condition of a canonical name, with the key that it was first set with. -/
def active? (name : String) (conditions : List (ConditionKey × Value)) :
    Option (ConditionKey × Value) :=
  conditions.find? fun condition => condition.1.name = name

theorem active?_cons (name : String) (condition : ConditionKey × Value)
    (conditions : List (ConditionKey × Value)) :
    active? name (condition :: conditions) =
      if condition.1.name = name then some condition else active? name conditions := by
  rw [active?, List.find?_cons]
  by_cases hname : condition.1.name = name
  · simp [hname]
  · simp [hname, active?]

theorem valueOf?_eq_active? (name : String) (conditions : List (ConditionKey × Value)) :
    valueOf? name conditions = (active? name conditions).map (·.2) := by
  induction conditions with
  | nil => rfl
  | cons first rest ih =>
    obtain ⟨first, u⟩ := first
    rw [valueOf?, active?_cons, ih]
    split <;> rfl

theorem active?_store (name : String) (key : ConditionKey) (v : Value)
    (conditions : List (ConditionKey × Value)) :
    active? name (store key v conditions) =
      if name = key.name then some (((active? key.name conditions).map (·.1)).getD key, v)
      else active? name conditions := by
  induction conditions with
  | nil =>
    rw [store, active?_cons]
    by_cases hname : name = key.name
    · rw [if_pos hname, if_pos hname.symm]
      rfl
    · rw [if_neg hname, if_neg (Ne.symm hname)]
  | cons first rest ih =>
    obtain ⟨first, u⟩ := first
    rw [store]
    by_cases hfirst : first.name = key.name
    · rw [if_pos hfirst, active?_cons, active?_cons, active?_cons, if_pos hfirst]
      by_cases hname : name = key.name
      · rw [if_pos hname, if_pos (hfirst.trans hname.symm)]
        rfl
      · have hne : first.name ≠ name := fun heq => hname (heq.symm.trans hfirst)
        rw [if_neg hname, if_neg hne, if_neg hne]
    · rw [if_neg hfirst, active?_cons, active?_cons, active?_cons, if_neg hfirst, ih]
      by_cases hname : name = key.name
      · subst hname
        rw [if_neg hfirst, if_pos rfl, if_pos rfl]
      · rw [if_neg hname, if_neg hname]

theorem active?_unset (name : String) (key : ConditionKey) (tree : ConditionTree) :
    active? name (tree.unset key).conditions =
      if name = key.name then none else active? name tree.conditions := by
  rw [active?, unset, List.find?_filter]
  split
  · rename_i hname
    subst hname
    simp
  · rename_i hname
    have hsame : ∀ condition : ConditionKey × Value,
        (condition.1.name ≠ key.name ∧ condition.1.name = name) ↔ condition.1.name = name :=
      fun condition => and_iff_right_of_imp fun heq => heq ▸ hname
    simp only [decide_eq_true_eq, hsame, active?]

theorem active?_give (name : String) (key : ConditionKey) (w : Option Value)
    (tree : ConditionTree) :
    active? name (tree.give key w).conditions =
      if name = key.name then
        w.map fun w => (((active? key.name tree.conditions).map (·.1)).getD key, w)
      else active? name tree.conditions := by
  cases w with
  | none => exact active?_unset name key tree
  | some w => exact active?_store name key w tree.conditions

theorem valueOf?_give (name : String) (key : ConditionKey) (w : Option Value)
    (tree : ConditionTree) :
    valueOf? name (tree.give key w).conditions =
      if name = key.name then w else valueOf? name tree.conditions := by
  rw [valueOf?_eq_active?, valueOf?_eq_active?, active?_give]
  split
  · cases w <;> rfl
  · rfl

/-! ### The place in the list -/

/-- The second list is the first with the value for one condition: in the place that the condition has, or behind all others if it was inactive. Without a value the condition leaves its place. -/
inductive Placed (key : ConditionKey) :
    Option Value → List (ConditionKey × Value) → List (ConditionKey × Value) → Prop
  | kept {active : ConditionKey} {before after : List (ConditionKey × Value)} (u w : Value)
      (hname : active.name = key.name) :
      Placed key (some w) (before ++ (active, u) :: after) (before ++ (active, w) :: after)
  | last {conditions : List (ConditionKey × Value)} (w : Value)
      (hnew : key.name ∉ activeNames conditions) :
      Placed key (some w) conditions (conditions ++ [(key, w)])
  | left {active : ConditionKey} {before after : List (ConditionKey × Value)} (u : Value)
      (hname : active.name = key.name) :
      Placed key none (before ++ (active, u) :: after) (before ++ after)
  | absent {conditions : List (ConditionKey × Value)} (hnew : key.name ∉ activeNames conditions) :
      Placed key none conditions conditions

theorem give_none_of_not_mem (hnew : key.name ∉ activeNames tree.conditions) :
    tree.give key none = tree := by
  have hsame : tree.conditions.filter (fun condition => condition.1.name ≠ key.name) =
      tree.conditions := by
    refine List.filter_eq_self.mpr fun condition hmem => decide_eq_true fun heq => hnew ?_
    exact List.mem_map.mpr ⟨condition, hmem, heq⟩
  show { tree with conditions := tree.conditions.filter _ } = tree
  rw [hsame]
  cases tree
  rfl

theorem placed_give (hnames : (activeNames tree.conditions).Nodup) (key : ConditionKey)
    (w : Option Value) : Placed key w tree.conditions (tree.give key w).conditions := by
  by_cases hactive : key.name ∈ activeNames tree.conditions
  · obtain ⟨⟨active, u⟩, hmem, hname⟩ := List.mem_map.mp hactive
    obtain ⟨before, after, hsplit⟩ := List.append_of_mem hmem
    cases w with
    | none =>
      rw [give, unset_eq_of_append_cons hsplit hnames hname, hsplit]
      exact .left u hname
    | some w =>
      have hbefore : key.name ∉ activeNames before := by
        rw [hsplit] at hnames
        exact hname ▸ (not_mem_map_of_nodup hnames).1
      have hstore : store key w tree.conditions = before ++ (active, w) :: after := by
        rw [hsplit, store_append_cons hname hbefore]
      rw [give, hstore, hsplit]
      exact .kept u w hname
  · cases w with
    | none =>
      rw [give_none_of_not_mem hactive]
      exact .absent hactive
    | some w =>
      rw [give, store_of_not_mem hactive]
      exact .last w hactive

/-! ### Giving twice -/

theorem give_none_give_none (key : ConditionKey) (tree : ConditionTree) :
    (tree.give key none).give key none = tree.give key none := by
  refine give_none_of_not_mem (valueOf?_eq_none_iff.mp ?_)
  rw [valueOf?_give, if_pos rfl]

theorem give_none_give (hnew : key.name ∉ activeNames tree.conditions) (w : Option Value) :
    (tree.give key w).give key none = tree := by
  cases w with
  | none => rw [give_none_give_none, give_none_of_not_mem hnew]
  | some w =>
    have hlast : tree.give key (some w) =
        { tree with conditions := tree.conditions ++ [(key, w)] } := by
      rw [give, store_of_not_mem hnew]
    calc (tree.give key (some w)).give key none = tree.give key none := by
          rw [hlast]
          simp [give, unset]
      _ = tree := give_none_of_not_mem hnew

/-! ### Laws -/

/-- What setting and resetting a condition by one name means for reading it by another, for the list of conditions, and for setting and resetting again. -/
structure AssignmentLaws (catalog : Catalog) (tree : ConditionTree) (name other : String)
    (key otherKey : ConditionKey) : Prop where
  isOk_iff : ∀ v, (∃ tree', tree.set catalog name v = .ok tree') ↔
    ∃ w, key.coerced catalog v = .ok w
  /-- Nothing but the list of conditions is different. -/
  set : ∀ v tree', tree.set catalog name v = .ok tree' →
    ∃ w, key.coerced catalog v = .ok w ∧
      tree'.get other = (if otherKey.name = key.name then .ok w else tree.get other) ∧
      Placed key w tree.conditions tree'.conditions ∧
      tree' = { tree with conditions := tree'.conditions }
  failed : ∀ v e, tree.set catalog name v = .error e →
    (Change.set name v).runAt catalog [] tree = (tree, .error e)
  reset : ∃ tree', tree.reset name = .ok tree' ∧
    tree'.get other = (if otherKey.name = key.name then .ok none else tree.get other) ∧
    Placed key none tree.conditions tree'.conditions ∧
    tree' = { tree with conditions := tree'.conditions } ∧
    tree'.reset name = .ok tree'
  undone : tree.get name = .ok none →
    ∀ v tree', tree.set catalog name v = .ok tree' → tree'.reset name = .ok tree

theorem get_give (hother : tree.vocabulary.resolve? other = some otherKey) (key : ConditionKey)
    (w : Option Value) :
    (tree.give key w).get other =
      if otherKey.name = key.name then .ok w else tree.get other := by
  have hother' : (tree.give key w).vocabulary.resolve? other = some otherKey := by
    rw [give_eq]
    exact hother
  rw [get_eq hother', get_eq hother, valueOf?_give]
  split
  · rfl
  · rfl

/-- Setting, reading and resetting depend on the names only through the conditions they lead to. -/
theorem assignmentLaws_of_reachable (htree : Reachable catalog tree)
    (hplain : tree.vocabulary.relationship? name = none)
    (hkey : tree.vocabulary.resolve? name = some key)
    (hother : tree.vocabulary.resolve? other = some otherKey) :
    AssignmentLaws catalog tree name other key otherKey := by
  have hnames := htree.unrepeated.here.conditions
  have hreset : ∀ w, (tree.give key w).reset name = .ok ((tree.give key w).give key none) := by
    intro w
    rw [give_eq key w]
    exact reset_eq hplain hkey
  constructor
  · intro v
    simp only [set_eq hkey, Outcome.map_eq_ok_iff]
    constructor
    · rintro ⟨_, w, hw, _⟩
      exact ⟨w, hw⟩
    · rintro ⟨w, hw⟩
      exact ⟨_, w, hw, rfl⟩
  · intro v tree' hset
    rw [set_eq hkey] at hset
    obtain ⟨w, hw, rfl⟩ := Outcome.map_eq_ok_iff.mp hset
    exact ⟨w, hw, get_give hother key w, placed_give hnames key w, give_eq key w tree⟩
  · intro v e hset
    exact Change.runAt_nil_of_error hset
  · refine ⟨tree.give key none, reset_eq hplain hkey, get_give hother key none,
      placed_give hnames key none, give_eq key none tree, ?_⟩
    rw [hreset, give_none_give_none]
  · intro hunset v tree' hset
    rw [get_eq hkey, Except.ok.injEq, valueOf?_eq_none_iff] at hunset
    rw [set_eq hkey] at hset
    obtain ⟨w, _, rfl⟩ := Outcome.map_eq_ok_iff.mp hset
    rw [hreset, give_none_give hunset]

/-- A search for a key and for its absence, changed under another name of the first. -/
theorem assignmentLaws_of_reachable_blog : ∃ tree key otherKey, Reachable Catalog.blog tree ∧
    tree.ownNames = ["key_equals", "key_is_null"] ∧
    tree.vocabulary.relationship? "key_eq" = none ∧
    tree.vocabulary.resolve? "key_eq" = some key ∧
    tree.vocabulary.resolve? "key" = some otherKey ∧ otherKey.name = key.name ∧
    AssignmentLaws Catalog.blog tree "key_eq" "key" key otherKey := by
  have hparts : (forEntity Catalog.blog "User" false >>= ConditionTree.apply Catalog.blog
      (.mapping [("key", .value (.string "a")), ("key_nil", .value (.bool false))])).toOption.map
        (fun tree => (tree.ownNames, (tree.vocabulary.relationship? "key_eq").isNone,
          (tree.vocabulary.resolve? "key_eq").isSome,
          tree.vocabulary.resolve? "key" == tree.vocabulary.resolve? "key_eq")) =
      some (["key_equals", "key_is_null"], true, true, true) := by
    decide +kernel
  obtain ⟨tree, htree, hparts⟩ := Option.map_eq_some_iff.mp hparts
  simp only [Prod.mk.injEq, Option.isNone_iff_eq_none, beq_iff_eq] at hparts
  obtain ⟨hnames, hplain, hkey, hsame⟩ := hparts
  obtain ⟨key, hkey⟩ := Option.isSome_iff_exists.mp hkey
  have hreachable := Reachable.of_apply (Outcome.toOption_eq_some_iff.mp htree)
  exact ⟨tree, key, key, hreachable, hnames, hplain, hkey, hsame.trans hkey, rfl,
    assignmentLaws_of_reachable hreachable hplain hkey (hsame.trans hkey)⟩

end ConditionTree

end SearchFilter
