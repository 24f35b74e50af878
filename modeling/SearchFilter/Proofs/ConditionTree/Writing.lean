import SearchFilter.Proofs.ConditionTree.Assignment
import SearchFilter.Proofs.ConditionTree.Navigation
/-!
# The last write counts

Input in bulk may get to one condition several times: under several of its names, in several pairs for one relationship, and anywhere in between. What is left in the end is what was written last, and what nothing was written to is as before.

`Params.writes` says what is written and where, in the order of the input. It reads the input by the names of the entities alone and knows nothing of trees, so it can be compared with what applying does. `Tracks` is the comparison for one thing that can be observed at nodes. It holds of writes that follow each other if it holds of each of them, and writes for a relationship become writes of the whole tree. Applying goes by the same steps, so `applyParams_written` follows the recursion and looks at single writes only.
-/

namespace SearchFilter

namespace Params

/-! ### What input writes -/

/-- A value for a condition, or a scope. -/
inductive Write where
  | condition (key : ConditionKey) (v : Value)
  | scope (text : String)

/-- The key and the value, if the write is one to the condition of a canonical name. -/
def Write.value? (name : String) : Write → Option (ConditionKey × Value)
  | condition key v => if key.name = name then some (key, v) else none
  | scope _ => none

def Write.scope? : Write → Option String
  | condition _ _ => none
  | scope text => some text

def behind (name : String) (writes : List (List String × Write)) : List (List String × Write) :=
  writes.map fun (path, write) => (name :: path, write)

mutual

/-- What input for an entity writes, each with the path of relationships that leads there. -/
def writes (catalog : Catalog) (vocabulary : Vocabulary) : Params → List (List String × Write)
  | .mapping pairs => pairWrites catalog vocabulary pairs
  | .value (.string text) => [([], .scope text)]
  | .value _ => []

def pairWrites (catalog : Catalog) (vocabulary : Vocabulary) :
    List (String × Params) → List (List String × Write)
  | [] => []
  | (name, params) :: rest =>
    match vocabulary.relationship? name with
    | some relationship =>
      match catalog.vocabulary? relationship.entity with
      | some target =>
        behind name (writes catalog target params) ++ pairWrites catalog vocabulary rest
      | none => pairWrites catalog vocabulary rest
    | none =>
      match vocabulary.resolve? name, params with
      | some key, .value v => ([], .condition key v) :: pairWrites catalog vocabulary rest
      | _, _ => pairWrites catalog vocabulary rest

end

/-- The last write of a sort at the end of a path. -/
def lastAt {α : Type} (path : List String) (select : Write → Option α)
    (writes : List (List String × Write)) : Option α :=
  (writes.filterMap fun (place, write) => if place = path then select write else none).getLast?

section

variable {catalog : Catalog} {vocabulary : Vocabulary} {name : String}

theorem pairWrites_of_relationship {relationship : Relationship} {target : Vocabulary}
    (hrelationship : vocabulary.relationship? name = some relationship)
    (htarget : catalog.vocabulary? relationship.entity = some target) (params : Params)
    (rest : List (String × Params)) :
    pairWrites catalog vocabulary ((name, params) :: rest) =
      behind name (writes catalog target params) ++ pairWrites catalog vocabulary rest := by
  simp only [pairWrites, hrelationship, htarget]

theorem pairWrites_of_condition {key : ConditionKey}
    (hplain : vocabulary.relationship? name = none) (hkey : vocabulary.resolve? name = some key)
    (v : Value) (rest : List (String × Params)) :
    pairWrites catalog vocabulary ((name, .value v) :: rest) =
      [([], .condition key v)] ++ pairWrites catalog vocabulary rest := by
  simp only [pairWrites, hplain, hkey, List.singleton_append]

variable {α : Type} {path : List String} {select : Write → Option α}

theorem lastAt_append (first second : List (List String × Write)) :
    lastAt path select (first ++ second) =
      (lastAt path select second).or (lastAt path select first) := by
  rw [lastAt, List.filterMap_append, List.getLast?_append, lastAt, lastAt]

theorem lastAt_here (write : Write) : lastAt [] select [([], write)] = select write := by
  cases hselect : select write <;> simp [lastAt, hselect]

theorem lastAt_elsewhere (write : Write) (step : String) (path : List String) :
    lastAt (step :: path) select [([], write)] = none := by
  simp [lastAt]

theorem lastAt_behind (name : String) (path : List String) (writes : List (List String × Write)) :
    lastAt (name :: path) select (behind name writes) = lastAt path select writes := by
  rw [lastAt, behind, List.filterMap_map, lastAt]
  refine congrArg List.getLast? (List.filterMap_congr fun pair _ => ?_)
  simp

theorem lastAt_behind_eq_none (h : ∀ rest, path ≠ name :: rest)
    (writes : List (List String × Write)) : lastAt path select (behind name writes) = none := by
  rw [lastAt, behind, List.filterMap_map, List.getLast?_eq_none_iff, List.filterMap_eq_nil_iff]
  intro pair _
  exact if_neg fun heq => h pair.1 heq.symm

end

end Params

def Vocabulary.along? (catalog : Catalog) : List String → Vocabulary → Option Vocabulary
  | [], vocabulary => some vocabulary
  | name :: path, vocabulary =>
    (vocabulary.relationship? name).bind fun relationship =>
      (catalog.vocabulary? relationship.entity).bind (along? catalog path)

namespace ConditionTree

open Params

variable {catalog : Catalog} {tree tree' tree'' child child' : ConditionTree} {name : String}
  {first second : List (List String × Write)} {path : List String} {untrusted : Bool}

/-! ### Places in a tree -/

/-- What is read under a name at the end of a path. Following the path makes trees where there are none. -/
def getAt (catalog : Catalog) (path : List String) (name : String) (tree : ConditionTree) :
    Except ConditionError (Option Value) :=
  (tree.visit catalog (read name) path).2

/-- What is observed at the end of a path, if there is a node. -/
def seenAt? {α : Type} (observe : ConditionTree → Option α) (path : List String)
    (tree : ConditionTree) : Option α :=
  (tree.descendant? path).bind observe

def value? (name : String) (tree : ConditionTree) : Option Value := valueOf? name tree.conditions

theorem getAt_nil (name : String) (tree : ConditionTree) :
    getAt catalog [] name tree = tree.get name := by
  rw [getAt, visit, read]
  cases tree.get name <;> rfl

theorem getAt_cons (step : String) (path : List String) (name : String) (tree : ConditionTree) :
    getAt catalog (step :: path) name tree =
      tree.relation catalog step >>= getAt catalog path name := by
  rw [getAt, visit]
  cases tree.relation catalog step <;> rfl

theorem getAt_eq (hconsistent : Everywhere (Consistent catalog) tree) {target : Vocabulary}
    (hpath : tree.vocabulary.along? catalog path = some target) {key : ConditionKey}
    (hkey : target.resolve? name = some key) :
    getAt catalog path name tree = .ok (seenAt? (value? key.name) path tree) := by
  induction path generalizing tree with
  | nil =>
    cases hpath
    rw [getAt_nil, get_eq hkey]
    rfl
  | cons step path ih =>
    obtain ⟨relationship, hrelationship, hpath⟩ := Option.bind_eq_some_iff.mp hpath
    obtain ⟨next, hnext, hpath⟩ := Option.bind_eq_some_iff.mp hpath
    obtain ⟨child, hchild⟩ := relation_isOk hrelationship hnext
    have hentity := hconsistent.here.relation hrelationship hnext hchild
    have hbelow := ih (hconsistent.relation consistent_invariant hchild) (hentity ▸ hpath)
    rw [getAt_cons, hchild, Outcome.ok_bind, hbelow, seenAt?,
      descendant?_of_relation hchild path fun _ _ => rfl, seenAt?]

/-! ### What writes do -/

section Tracks

variable {α β : Type}

def afterLast (effect : β → Except ConditionError (Option α)) (before : Option α) :
    Option β → Except ConditionError (Option α)
  | none => .ok before
  | some b => effect b

/-- At every place the last write of a sort decides what is observed, and what nothing was written to is as before. -/
def Tracks (observe : ConditionTree → Option α) (select : Write → Option β)
    (effect : β → Except ConditionError (Option α)) (writes : List (List String × Write))
    (tree tree' : ConditionTree) : Prop :=
  ∀ path, afterLast effect (seenAt? observe path tree) (lastAt path select writes) =
    .ok (seenAt? observe path tree')

variable {observe : ConditionTree → Option α} {select : Write → Option β}
  {effect : β → Except ConditionError (Option α)}

theorem Tracks.refl (tree : ConditionTree) : Tracks observe select effect [] tree tree :=
  fun _ => rfl

theorem Tracks.trans (h : Tracks observe select effect first tree tree')
    (h' : Tracks observe select effect second tree' tree'') :
    Tracks observe select effect (first ++ second) tree tree'' := by
  intro path
  have hbefore := h path
  have hafter := h' path
  rw [lastAt_append]
  cases hlast : lastAt path select second with
  | none =>
    rw [hlast, afterLast] at hafter
    rw [Option.none_or, hbefore, hafter]
  | some b =>
    rw [hlast] at hafter
    exact hafter

theorem Tracks.here {write : Write} (hrelations : tree'.relations = tree.relations)
    (h : afterLast effect (observe tree) (select write) = .ok (observe tree')) :
    Tracks observe select effect [([], write)] tree tree' := by
  intro path
  cases path with
  | nil =>
    rw [lastAt_here]
    exact h
  | cons step path =>
    have hsame : tree'.descendant? (step :: path) = tree.descendant? (step :: path) := by
      rw [descendant?_cons, descendant?_cons, child?, child?, hrelations]
    rw [lastAt_elsewhere, seenAt?, seenAt?, hsame]
    rfl

theorem Tracks.below
    (hfresh : ∀ vocabulary isProtected, observe (fresh vocabulary isProtected) = none)
    (hsame : observe (tree.withChild name child') = observe tree)
    (hchild : tree.relation catalog name = .ok child)
    (h : Tracks observe select effect first child child') :
    Tracks observe select effect (behind name first) tree (tree.withChild name child') := by
  intro path
  cases path with
  | nil =>
    rw [lastAt_behind_eq_none fun _ => List.cons_ne_nil _ _ |>.symm]
    exact congrArg Except.ok hsame.symm
  | cons step path =>
    by_cases hstep : step = name
    · subst hstep
      have hbefore : seenAt? observe (step :: path) tree = seenAt? observe path child :=
        (descendant?_of_relation hchild path hfresh).symm
      have hafter : seenAt? observe (step :: path) (tree.withChild step child') =
          seenAt? observe path child' := by
        rw [seenAt?, descendant?_withChild, if_pos rfl, seenAt?]
      rw [lastAt_behind, hbefore, hafter]
      exact h path
    · have hafter : seenAt? observe (step :: path) (tree.withChild name child') =
          seenAt? observe (step :: path) tree := by
        rw [seenAt?, descendant?_withChild, if_neg hstep, seenAt?]
      rw [lastAt_behind_eq_none fun rest heq => hstep (List.cons.inj heq).1, hafter]
      rfl

end Tracks

def valueEffect (catalog : Catalog) (write : ConditionKey × Value) :
    Except ConditionError (Option Value) :=
  write.1.coerced catalog (blankToNull write.2)

def scopeEffect (text : String) : Except ConditionError (Option String) :=
  .ok (if text.toList.all Text.isBlank then none else some text)

/-- The second tree is the first one after the writes. -/
structure AfterWrites (catalog : Catalog) (writes : List (List String × Write))
    (tree tree' : ConditionTree) : Prop where
  values : ∀ name, Tracks (value? name) (Write.value? name) (valueEffect catalog) writes tree tree'
  scopes : Tracks scope Write.scope? scopeEffect writes tree tree'

theorem AfterWrites.refl (tree : ConditionTree) : AfterWrites catalog [] tree tree :=
  ⟨fun _ => .refl tree, .refl tree⟩

theorem AfterWrites.trans (h : AfterWrites catalog first tree tree')
    (h' : AfterWrites catalog second tree' tree'') :
    AfterWrites catalog (first ++ second) tree tree'' :=
  ⟨fun name => (h.values name).trans (h'.values name), h.scopes.trans h'.scopes⟩

theorem AfterWrites.below (hchild : tree.relation catalog name = .ok child)
    (h : AfterWrites catalog first child child') :
    AfterWrites catalog (behind name first) tree (tree.withChild name child') :=
  ⟨fun other => (h.values other).below (fun _ _ => rfl) rfl hchild,
    h.scopes.below (fun _ _ => rfl) rfl hchild⟩

/-! ### Bulk input -/

theorem give_written {key : ConditionKey} {v : Value} {w : Option Value}
    (h : valueEffect catalog (key, v) = .ok w) :
    AfterWrites catalog [([], .condition key v)] tree (tree.give key w) := by
  have hrelations : (tree.give key w).relations = tree.relations := by rw [give_eq]
  refine ⟨fun name => .here hrelations ?_, .here hrelations ?_⟩
  · rw [value?, value?, valueOf?_give, Write.value?]
    by_cases hname : key.name = name
    · rw [if_pos hname, if_pos hname.symm]
      exact h
    · rw [if_neg hname, if_neg (Ne.symm hname)]
      rfl
  · rw [give_eq]
    rfl

theorem setScope_written {text : String} (h : tree.setScope text = .ok tree') :
    AfterWrites catalog [([], .scope text)] tree tree' := by
  rw [setScope_eq_ok h]
  exact ⟨fun _ => .here rfl rfl, .here rfl rfl⟩

def Trusting (node : ConditionTree) : Prop := node.isProtected = false

theorem relation_trusting (h : Everywhere Trusting tree)
    (hchild : tree.relation catalog name = .ok child) : Everywhere Trusting child :=
  h.relation_of_fresh (fun _ _ _ => h.here) hchild

theorem applyCondition_eq_ok {params : Params}
    (h : tree.applyCondition catalog false name params = .ok tree') :
    ∃ key v w, tree.vocabulary.resolve? name = some key ∧ params = .value v ∧
      valueEffect catalog (key, v) = .ok w ∧ tree' = tree.give key w := by
  cases params with
  | mapping pairs =>
    obtain ⟨key, _, h⟩ := Outcome.bind_eq_ok_iff.mp h
    cases h
  | value v =>
    obtain ⟨key, hkey, _⟩ := Outcome.bind_eq_ok_iff.mp h
    rw [resolve_eq_ok_iff] at hkey
    have hopen : tree.withholds false key.name = false := rfl
    rw [applyCondition_value hkey, hopen, if_neg Bool.false_ne_true, set_eq hkey] at h
    obtain ⟨w, hw, rfl⟩ := Outcome.map_eq_ok_iff.mp h
    exact ⟨key, v, w, hkey, rfl, hw, rfl⟩

theorem applyValue_written {v : Value} (htrusting : Everywhere Trusting tree)
    (h : tree.applyValue false v = .ok tree') :
    AfterWrites catalog ((Params.value v).writes catalog tree.vocabulary) tree tree' ∧
      Everywhere Trusting tree' := by
  cases v with
  | null =>
    cases h
    rw [writes]
    · exact ⟨.refl tree, htrusting⟩
    · exact fun _ => Value.noConfusion
  | string text =>
    have hscope : tree.setScope text = .ok tree' := h
    rw [writes]
    refine ⟨setScope_written hscope, ?_⟩
    rw [setScope_eq_ok hscope]
    exact htrusting.replace htrusting.here fun _ hmem => hmem
  | _ => cases h

mutual

theorem applyParams_written : ∀ (params : Params) {tree tree' : ConditionTree},
    Everywhere (Consistent catalog) tree → Everywhere Trusting tree →
    applyParams catalog false params tree = .ok tree' →
    AfterWrites catalog (params.writes catalog tree.vocabulary) tree tree' ∧
      Everywhere Trusting tree'
  | .mapping pairs, tree, _, hconsistent, htrusting, h => by
    have hopen : tree.isProtected = false := htrusting.here
    rw [applyParams, hopen, Bool.or_false] at h
    rw [writes]
    exact applyPairs_written pairs hconsistent htrusting h
  | .value v, tree, _, _, htrusting, h => by
    have hopen : tree.isProtected = false := htrusting.here
    rw [applyParams, hopen, Bool.or_false] at h
    exact applyValue_written htrusting h

theorem applyPairs_written : ∀ (pairs : List (String × Params)) {tree tree' : ConditionTree},
    Everywhere (Consistent catalog) tree → Everywhere Trusting tree →
    applyPairs catalog false pairs tree = .ok tree' →
    AfterWrites catalog (pairWrites catalog tree.vocabulary pairs) tree tree' ∧
      Everywhere Trusting tree'
  | [], tree, _, _, htrusting, h => by
    rw [applyPairs_nil] at h
    cases h
    rw [pairWrites]
    exact ⟨.refl tree, htrusting⟩
  | (name, params) :: rest, tree, tree', hconsistent, htrusting, h => by
    rw [applyPairs_cons] at h
    obtain ⟨next, hpair, hrest⟩ := Outcome.bind_eq_ok_iff.mp h
    have hedits := applyPair_edits hpair
    have hconsistent' := hedits.everywhere consistent_invariant hconsistent
    have hnext := @applyPairs_written rest next tree' hconsistent'
    rw [hedits.vocabulary_eq] at hnext
    cases hrelationship : tree.vocabulary.relationship? name with
    | some relationship =>
      -- no policy is asked about trusted input, so the relationship is followed
      have hopen : tree.withholds false name = false := rfl
      simp only [applyPair, hrelationship, hopen, Bool.false_eq_true, if_false] at hpair
      obtain ⟨child, hchild, hpair⟩ := Outcome.bind_eq_ok_iff.mp hpair
      obtain ⟨child', hchild', hpair⟩ := Outcome.bind_eq_ok_iff.mp hpair
      cases hpair
      obtain ⟨_, hsame, htarget⟩ := hconsistent.here.target hchild
      cases hrelationship.symm.trans hsame
      have hbelow := hconsistent.relation consistent_invariant hchild
      obtain ⟨hwritten, htrusting'⟩ :=
        applyParams_written params hbelow (relation_trusting htrusting hchild) hchild'
      rw [pairWrites_of_relationship hrelationship htarget]
      obtain ⟨hwritten', htrusting''⟩ := hnext (htrusting.put htrusting.here htrusting') hrest
      exact ⟨(hwritten.below hchild).trans hwritten', htrusting''⟩
    | none =>
      simp only [applyPair, hrelationship] at hpair
      obtain ⟨key, v, w, hkey, rfl, hw, rfl⟩ := applyCondition_eq_ok hpair
      have hgiven : Everywhere Trusting (tree.give key w) := by
        rw [give_eq]
        exact htrusting.replace htrusting.here fun _ hmem => hmem
      obtain ⟨hwritten', htrusting'⟩ := hnext hgiven hrest
      rw [pairWrites_of_condition hrelationship hkey]
      exact ⟨(give_written hw).trans hwritten', htrusting'⟩

end

/-- What is read and what the scopes are after the input, from what the input writes. -/
structure LastWrites (catalog : Catalog) (params : Params) (tree tree' : ConditionTree) : Prop where
  /-- Each name of a condition reads what was written last under any of the names of the condition. -/
  value : ∀ path target name key, tree.vocabulary.along? catalog path = some target →
    target.resolve? name = some key →
      ∃ before after, getAt catalog path name tree = .ok before ∧
        getAt catalog path name tree' = .ok after ∧
        afterLast (valueEffect catalog) before
          (lastAt path (Write.value? key.name) (params.writes catalog tree.vocabulary)) =
            .ok after ∧
        (tree.descendant? path = none → before = none)
  scope : ∀ path, afterLast scopeEffect (seenAt? scope path tree)
    (lastAt path Write.scope? (params.writes catalog tree.vocabulary)) =
      .ok (seenAt? scope path tree')

/-- In trusted input the last write to a condition or a scope is the one that counts, however it got there, and everything else is as before. -/
theorem apply_lastWrites {params : Params} (htree : Reachable catalog tree)
    (htrusting : Everywhere Trusting tree) (happly : tree.apply catalog params = .ok tree') :
    LastWrites catalog params tree tree' := by
  have hedits := applyParams_edits params happly
  have hconsistent := htree.consistent
  have hconsistent' := hedits.everywhere consistent_invariant hconsistent
  obtain ⟨hwritten, _⟩ := applyParams_written params hconsistent htrusting happly
  refine ⟨fun path target name key hpath hkey => ?_, hwritten.scopes⟩
  have hpath' : tree'.vocabulary.along? catalog path = some target := by
    rw [hedits.vocabulary_eq]
    exact hpath
  refine ⟨_, _, getAt_eq hconsistent hpath hkey, getAt_eq hconsistent' hpath' hkey,
    hwritten.values key.name path, fun hnone => ?_⟩
  rw [seenAt?, hnone, Option.bind_none]

/-- A key that is given and taken back, and the author of the posts, who is reached three times. -/
theorem apply_lastWrites_blog : ∃ start params tree, Reachable Catalog.blog start ∧
    Everywhere Trusting start ∧ start.apply Catalog.blog params = .ok tree ∧
    params = .mapping
      [("posts", .mapping [("author",
          .mapping [("key", .value (.string "a")), ("key_is_null", .value (.bool true))])]),
        ("key", .value (.string "b")),
        ("posts", .mapping [("author", .value (.string "users.active"))]),
        ("posts", .mapping [("author",
          .mapping [("key_equals", .value (.string "c")), ("key_nil", .value (.string ""))])]),
        ("key_eq", .value .null)] ∧
    tree.compile.template = "(((\"users\".\"key\" = ?) AND users.active))" ∧
    LastWrites Catalog.blog params start tree := by
  have hparts : (forEntity Catalog.blog "User" false).toOption.bind (fun start =>
      (start.apply Catalog.blog (.mapping
        [("posts", .mapping [("author",
            .mapping [("key", .value (.string "a")), ("key_is_null", .value (.bool true))])]),
          ("key", .value (.string "b")),
          ("posts", .mapping [("author", .value (.string "users.active"))]),
          ("posts", .mapping [("author",
            .mapping [("key_equals", .value (.string "c")), ("key_nil", .value (.string ""))])]),
          ("key_eq", .value .null)])).toOption.map fun tree => tree.compile.template) =
      some "(((\"users\".\"key\" = ?) AND users.active))" := by
    decide +kernel
  obtain ⟨start, hstart, hparts⟩ := Option.bind_eq_some_iff.mp hparts
  obtain ⟨tree, htree, htemplate⟩ := Option.map_eq_some_iff.mp hparts
  rw [Outcome.toOption_eq_some_iff] at hstart htree
  have hreachable := Reachable.start hstart
  obtain ⟨vocabulary, _, hfresh⟩ := Outcome.bind_eq_ok_iff.mp hstart
  cases hfresh
  have htrusting : Everywhere Trusting (fresh vocabulary false) := everywhere_fresh rfl
  exact ⟨_, _, tree, hreachable, htrusting, htree, rfl, htemplate,
    apply_lastWrites hreachable htrusting htree⟩

end ConditionTree

end SearchFilter
