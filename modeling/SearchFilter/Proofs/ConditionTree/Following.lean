import SearchFilter.Proofs.ConditionTree.Keeping
import SearchFilter.Proofs.ConditionTree.Order
/-!
# Trees that were followed stay

The tree of a relationship is made once. Whatever is done afterwards, at whatever node, it stays the tree of this relationship until it is forgotten, and it changes only by what reaches it. So a program that follows the same path again finds the tree that it left there.

What is done to a tree is a `Step`: a change at some place in it, or bulk input that comes from the tree above and may be untrusted already. Each step reaches the tree of a relationship as steps of its own, `Step.below`. A change at a place behind the relationship becomes one at a shorter path, bulk input becomes what it has for the name, and nothing else reaches it. As the steps below are again steps, this carries over to all depths: `reaching` are the steps as they reach the node at the end of a path.
-/

namespace SearchFilter

namespace ConditionTree

/-- What is done to a tree: a change at a place in it, or input from the tree above. -/
inductive Step where
  | made (path : List String) (change : Change)
  | given (untrusted : Bool) (params : Params)

variable {catalog : Catalog} {tree tree' child node : ConditionTree} {name : String}
  {path : List String} {step : Step} {steps : List Step}

namespace Step

def run (catalog : Catalog) (tree : ConditionTree) : Step → ConditionTree
  | made path change => (change.runAt catalog path tree).1
  | given untrusted params => (applyParams catalog untrusted params tree).toOption.getD tree

/-- A tree on the path is forgotten. -/
def Forgets (path : List String) : Step → Prop
  | made place change =>
    ∃ name rest, path = place ++ name :: rest ∧ (change = .reset name ∨ change = .resetAll)
  | given _ _ => False

/-- The step is a change at a node that is not behind the path, and gives nothing to the nodes below it. -/
def Elsewhere (path : List String) : Step → Prop
  | made place change => ¬ path <+: place ∧ ∀ params, change ≠ .apply params
  | given _ _ => False

end Step

/-- What a mapping has for the relationship, in its order. Nothing is applied of what the policy withholds. -/
def inputsFor (tree : ConditionTree) (untrusted : Bool) (name : String)
    (pairs : List (String × Params)) : List Step :=
  if tree.withholds untrusted name then []
  else (pairs.filter fun pair => pair.1 = name).map fun pair => .given untrusted pair.2

/-- How accepted input reaches the tree of a relationship. -/
def inputBelow (tree : ConditionTree) (untrusted : Bool) (name : String) : Params → List Step
  | .mapping pairs => tree.inputsFor (untrusted || tree.isProtected) name pairs
  | .value _ => []

/-- How a step at a tree reaches the tree of one of its relationships. -/
def Step.below (catalog : Catalog) (tree : ConditionTree) (name : String) : Step → List Step
  | made (first :: path) change => if first = name then [.made path change] else []
  | made [] (.apply params) =>
    if (tree.apply catalog params).isOk then tree.inputBelow false name params else []
  | made [] _ => []
  | given untrusted params =>
    if (applyParams catalog untrusted params tree).isOk then tree.inputBelow untrusted name params
    else []

def runAll (catalog : Catalog) (steps : List Step) (tree : ConditionTree) : ConditionTree :=
  steps.foldl (fun tree step => step.run catalog tree) tree

def belowAll (catalog : Catalog) (name : String) : List Step → ConditionTree → List Step
  | [], _ => []
  | step :: rest, tree =>
    step.below catalog tree name ++ belowAll catalog name rest (step.run catalog tree)

def reaching (catalog : Catalog) : List String → List Step → ConditionTree → List Step
  | [], steps, _ => steps
  | name :: path, steps, tree =>
    match tree.child? name with
    | none => []
    | some child => reaching catalog path (belowAll catalog name steps tree) child

theorem runAll_append (first second : List Step) (tree : ConditionTree) :
    runAll catalog (first ++ second) tree = runAll catalog second (runAll catalog first tree) :=
  List.foldl_append

/-! ### Bulk input -/

theorem inputsFor_eq (h : tree'.vocabulary = tree.vocabulary) (untrusted : Bool) (name : String) :
    tree'.inputsFor untrusted name = tree.inputsFor untrusted name := by
  funext pairs
  rw [inputsFor, inputsFor, withholds, withholds, h]

theorem inputsFor_cons_of_ne {pair : String × Params} (h : pair.1 ≠ name) (untrusted : Bool)
    (rest : List (String × Params)) :
    tree.inputsFor untrusted name (pair :: rest) = tree.inputsFor untrusted name rest := by
  rw [inputsFor, List.filter_cons_of_neg (by simpa using h), inputsFor]

theorem inputsFor_cons_self {pair : String × Params} {untrusted : Bool}
    (h : tree.withholds untrusted pair.1 = false) (rest : List (String × Params)) :
    tree.inputsFor untrusted pair.1 (pair :: rest) =
      .given untrusted pair.2 :: tree.inputsFor untrusted pair.1 rest := by
  simp [inputsFor, h]

theorem child?_applyPair_of_ne {untrusted : Bool} {pair : String × Params} (hname : pair.1 ≠ name)
    (h : applyPair catalog untrusted pair tree = .ok tree') :
    tree'.child? name = tree.child? name := by
  rcases applyPair_cases h with rfl | ⟨child, rfl⟩ | ⟨key, rfl⟩ | ⟨key, w, rfl⟩
  · rfl
  · rw [child?_withChild, if_neg (Ne.symm hname)]
  · rfl
  · rfl

theorem applyPair_of_withheld {untrusted : Bool} {pair : String × Params}
    {relationship : Relationship}
    (hrelationship : tree.vocabulary.relationship? pair.1 = some relationship)
    (hwithheld : tree.withholds untrusted pair.1 = true)
    (h : applyPair catalog untrusted pair tree = .ok tree') : tree' = tree := by
  simp only [applyPair, hrelationship, hwithheld, if_true] at h
  obtain ⟨_, _, h⟩ := Outcome.bind_eq_ok_iff.mp h
  obtain ⟨_, _, h⟩ := Outcome.bind_eq_ok_iff.mp h
  cases h
  rfl

theorem applyPair_of_followed {untrusted : Bool} {pair : String × Params}
    {relationship : Relationship}
    (hrelationship : tree.vocabulary.relationship? pair.1 = some relationship)
    (hpermitted : tree.withholds untrusted pair.1 = false)
    (hchild : tree.relation catalog pair.1 = .ok child)
    (h : applyPair catalog untrusted pair tree = .ok tree') :
    ∃ below, applyParams catalog untrusted pair.2 child = .ok below ∧
      tree' = tree.withChild pair.1 below := by
  simp only [applyPair, hrelationship, hpermitted, Bool.false_eq_true, if_false, hchild,
    Outcome.ok_bind] at h
  obtain ⟨below, hbelow, h⟩ := Outcome.bind_eq_ok_iff.mp h
  cases h
  exact ⟨below, hbelow, rfl⟩

theorem child?_applyPairs {untrusted : Bool} {pairs : List (String × Params)}
    {relationship : Relationship}
    (hrelationship : tree.vocabulary.relationship? name = some relationship)
    (hchild : tree.child? name = some child)
    (h : applyPairs catalog untrusted pairs tree = .ok tree') :
    tree'.child? name = some (runAll catalog (tree.inputsFor untrusted name pairs) child) := by
  induction pairs generalizing tree child with
  | nil =>
    rw [applyPairs_nil] at h
    cases h
    simpa [inputsFor, runAll] using hchild
  | cons pair rest ih =>
    rw [applyPairs_cons] at h
    obtain ⟨next, hpair, hrest⟩ := Outcome.bind_eq_ok_iff.mp h
    have hvocabulary := (applyPair_edits hpair).vocabulary_eq
    have hinputs := inputsFor_eq hvocabulary untrusted name
    rw [← hvocabulary] at hrelationship
    by_cases hname : pair.1 = name
    · subst hname
      rw [hvocabulary] at hrelationship
      cases hwithheld : tree.withholds untrusted pair.1 with
      | true =>
        -- what the policy withholds is screened and leaves the tree alone
        obtain rfl := applyPair_of_withheld hrelationship hwithheld hpair
        rw [ih hrelationship hchild hrest, inputsFor, if_pos hwithheld, inputsFor, if_pos hwithheld]
      | false =>
        obtain ⟨below, hbelow, hnext⟩ :=
          applyPair_of_followed hrelationship hwithheld (relation_of_child? hchild) hpair
        have hfound : next.child? pair.1 = some below := by
          rw [hnext, child?_withChild, if_pos rfl]
        rw [ih (hvocabulary ▸ hrelationship) hfound hrest, hinputs, inputsFor_cons_self hwithheld]
        simp only [runAll, List.foldl_cons, Step.run, hbelow, Except.toOption, Option.getD_some]
    · have hsame := (child?_applyPair_of_ne hname hpair).trans hchild
      rw [ih hrelationship hsame hrest, hinputs, inputsFor_cons_of_ne hname]

theorem child?_applyParams (hconsistent : Consistent catalog tree) {untrusted : Bool}
    {params : Params} (hchild : tree.child? name = some child)
    (h : applyParams catalog untrusted params tree = .ok tree') :
    tree'.child? name = some (runAll catalog (tree.inputBelow untrusted name params) child) := by
  obtain ⟨relationship, hrelationship, _⟩ :=
    hconsistent.relations name child (Vocabulary.mem_of_lookup hchild)
  cases params with
  | mapping pairs =>
    rw [applyParams] at h
    exact child?_applyPairs hrelationship hchild h
  | value v =>
    rw [applyParams] at h
    rw [child?, (applyValue_lists h).2]
    exact hchild

/-! ### One step -/

theorem child?_run {change : Change} (hconsistent : Consistent catalog tree)
    (hchild : tree.child? name = some child) (hkeeps : change ≠ .reset name ∧ change ≠ .resetAll)
    (h : change.run catalog tree = .ok tree') :
    tree'.child? name =
      some (runAll catalog ((Step.made [] change).below catalog tree name) child) := by
  cases change with
  | set other v =>
    obtain ⟨key, _, h⟩ := Outcome.bind_eq_ok_iff.mp h
    rcases assign_cases h with rfl | ⟨w, rfl⟩
    · exact hchild
    · exact hchild
  | reset other =>
    have hne : name ≠ other := fun heq => hkeeps.1 (heq ▸ rfl)
    have hreset : tree.reset other = .ok tree' := h
    unfold reset at hreset
    split at hreset
    · cases hreset
      exact (lookup_filter_of_ne tree.relations hne).trans hchild
    · obtain ⟨key, _, rfl⟩ := Outcome.map_eq_ok_iff.mp hreset
      exact hchild
  | resetAll => exact absurd rfl hkeeps.2
  | follow other =>
    obtain ⟨followed, hfollowed, rfl⟩ := Outcome.map_eq_ok_iff.mp h
    rw [child?_withChild]
    split
    · rename_i hsame
      subst hsame
      rw [relation_of_child? hchild] at hfollowed
      cases hfollowed
      rfl
    · exact hchild
  | setScope scope =>
    rw [child?, (setScope_lists h).2]
    exact hchild
  | clearScope | setProtected =>
    cases h
    exact hchild
  | apply params =>
    have happly : tree.apply catalog params = .ok tree' := h
    rw [Step.below, happly]
    exact child?_applyParams hconsistent hchild happly

theorem below_of_error {change : Change} {e : ConditionError}
    (h : change.run catalog tree = .error e) :
    (Step.made [] change).below catalog tree name = [] := by
  cases change with
  | apply params =>
    have happly : tree.apply catalog params = .error e := h
    rw [Step.below, happly]
    rfl
  | _ => rfl

/-- A step reaches the tree of a relationship as the steps below, and no other way. -/
theorem child?_step (hconsistent : Consistent catalog tree) (hchild : tree.child? name = some child)
    (hkeeps : ¬ step.Forgets [name]) :
    (step.run catalog tree).child? name =
      some (runAll catalog (step.below catalog tree name) child) := by
  cases step with
  | given untrusted params =>
    rw [Step.run, Step.below]
    cases happly : applyParams catalog untrusted params tree with
    | error e => exact hchild
    | ok tree' => exact child?_applyParams hconsistent hchild happly
  | made place change =>
    cases place with
    | nil =>
      rw [Step.run]
      cases hrun : change.run catalog tree with
      | error e =>
        rw [Change.runAt_nil_of_error hrun, below_of_error hrun]
        exact hchild
      | ok tree' =>
        rw [Change.runAt_nil_of_ok hrun]
        refine child?_run hconsistent hchild ⟨?_, ?_⟩ hrun
        · rintro rfl
          exact hkeeps ⟨name, [], rfl, .inl rfl⟩
        · rintro rfl
          exact hkeeps ⟨name, [], rfl, .inr rfl⟩
    | cons first place =>
      rw [Step.run, Step.below, Change.runAt, visit]
      by_cases hfirst : first = name
      · subst hfirst
        rw [relation_of_child? hchild, if_pos rfl, child?_withChild, if_pos rfl]
        rfl
      · rw [if_neg hfirst]
        split
        · exact hchild
        · rw [child?_withChild, if_neg (Ne.symm hfirst)]
          exact hchild

/-! ### Any number of steps -/

theorem Step.run_edits (step : Step) (tree : ConditionTree) :
    Edits catalog tree (step.run catalog tree) := by
  cases step with
  | made path change => exact Change.runAt_edits path change tree
  | given untrusted params =>
    rw [Step.run]
    cases happly : applyParams catalog untrusted params tree with
    | error e => exact .refl tree
    | ok tree' => exact applyParams_edits params happly

theorem Step.Forgets.append (h : step.Forgets path) (rest : List String) :
    step.Forgets (path ++ rest) := by
  cases step with
  | given => exact h
  | made place change =>
    obtain ⟨name, behind, rfl, hchange⟩ := h
    exact ⟨name, behind ++ rest, by simp, hchange⟩

theorem not_forgets_of_mem_inputBelow {untrusted : Bool} {params : Params}
    (h : step ∈ tree.inputBelow untrusted name params) : ¬ step.Forgets path := by
  cases params with
  | value v => exact absurd h List.not_mem_nil
  | mapping pairs =>
    rw [inputBelow, inputsFor] at h
    split at h
    · exact absurd h List.not_mem_nil
    · obtain ⟨pair, _, rfl⟩ := List.mem_map.mp h
      exact id

/-- What does not forget a node behind a relationship does not forget it when it gets there. -/
theorem not_forgets_of_mem_below (h : ¬ step.Forgets (name :: path)) :
    ∀ below ∈ step.below catalog tree name, ¬ below.Forgets path := by
  intro below hbelow
  cases step with
  | given untrusted params =>
    rw [Step.below] at hbelow
    split at hbelow
    · exact not_forgets_of_mem_inputBelow hbelow
    · exact absurd hbelow List.not_mem_nil
  | made place change =>
    cases place with
    | nil =>
      cases change with
      | apply params =>
        rw [Step.below] at hbelow
        split at hbelow
        · exact not_forgets_of_mem_inputBelow hbelow
        · exact absurd hbelow List.not_mem_nil
      | _ => exact absurd hbelow List.not_mem_nil
    | cons first place =>
      rw [Step.below] at hbelow
      split at hbelow
      · rename_i hfirst
        obtain rfl := List.mem_singleton.mp hbelow
        intro ⟨other, rest, hpath, hchange⟩
        exact h ⟨other, rest, by rw [hpath, hfirst, List.cons_append], hchange⟩
      · exact absurd hbelow List.not_mem_nil

theorem forall_mem_belowAll {P Q : Step → Prop}
    (hbelow : ∀ step tree, P step → ∀ below ∈ step.below catalog tree name, Q below)
    (h : ∀ step ∈ steps, P step) :
    ∀ below ∈ belowAll catalog name steps tree, Q below := by
  induction steps generalizing tree with
  | nil => exact fun _ hmem => absurd hmem List.not_mem_nil
  | cons step rest ih =>
    intro below hmem
    rcases List.mem_append.mp hmem with hfirst | hrest
    · exact hbelow step tree (h step List.mem_cons_self) below hfirst
    · exact ih (fun other hother => h other (List.mem_cons_of_mem _ hother)) below hrest

theorem child?_runAll (hconsistent : Everywhere (Consistent catalog) tree)
    (hchild : tree.child? name = some child) (hkeeps : ∀ step ∈ steps, ¬ step.Forgets [name]) :
    (runAll catalog steps tree).child? name =
      some (runAll catalog (belowAll catalog name steps tree) child) := by
  induction steps generalizing tree child with
  | nil => exact hchild
  | cons step rest ih =>
    obtain ⟨hstep, hrest⟩ := List.forall_mem_cons.mp hkeeps
    have hnext := child?_step hconsistent.here hchild hstep
    have hconsistent' := (step.run_edits tree).everywhere consistent_invariant hconsistent
    rw [belowAll, runAll_append]
    exact ih hconsistent' hnext hrest

/-- The node at the end of a path stays until a tree on the path is forgotten, and it changes by the steps that reach it. -/
theorem descendant?_runAll (hconsistent : Everywhere (Consistent catalog) tree)
    (hnode : tree.descendant? path = some node)
    (hkeeps : ∀ step ∈ steps, ¬ step.Forgets path) :
    (runAll catalog steps tree).descendant? path =
      some (runAll catalog (reaching catalog path steps tree) node) := by
  induction path generalizing tree steps with
  | nil =>
    cases hnode
    rfl
  | cons name path ih =>
    rw [descendant?_cons] at hnode
    obtain ⟨child, hchild, hnode⟩ := Option.bind_eq_some_iff.mp hnode
    have hfirst : ∀ step ∈ steps, ¬ step.Forgets [name] :=
      fun step hstep hforgets => hkeeps step hstep (hforgets.append path)
    rw [descendant?_cons, child?_runAll hconsistent hchild hfirst, Option.bind_some, reaching,
      hchild]
    exact ih (hconsistent.inside (Vocabulary.mem_of_lookup hchild)) hnode
      (forall_mem_belowAll (fun _ _ => not_forgets_of_mem_below) hkeeps)

theorem elsewhere_of_mem_below (h : step.Elsewhere (name :: path)) :
    ∀ below ∈ step.below catalog tree name, below.Elsewhere path := by
  intro below hbelow
  cases step with
  | given => exact h.elim
  | made place change =>
    obtain ⟨hplace, hchange⟩ := h
    cases place with
    | nil =>
      cases change with
      | apply params => exact absurd rfl (hchange params)
      | _ => exact absurd hbelow List.not_mem_nil
    | cons first place =>
      rw [Step.below] at hbelow
      split at hbelow
      · rename_i hfirst
        obtain rfl := List.mem_singleton.mp hbelow
        refine ⟨fun hprefix => hplace ?_, hchange⟩
        rw [hfirst, List.prefix_cons_inj]
        exact hprefix
      · exact absurd hbelow List.not_mem_nil

theorem reaching_eq_nil (h : ∀ step ∈ steps, step.Elsewhere path) :
    reaching catalog path steps tree = [] := by
  induction path generalizing tree steps with
  | nil =>
    refine List.eq_nil_iff_forall_not_mem.mpr fun step hstep => ?_
    have helsewhere := h step hstep
    cases step with
    | made place change => exact helsewhere.1 List.nil_prefix
    | given => exact helsewhere
  | cons name path ih =>
    rw [reaching]
    split
    · rfl
    · exact ih (forall_mem_belowAll (fun _ _ => elsewhere_of_mem_below) h)

/-! ### Changes at nodes that are there -/

theorem Everywhere.descendant? {P : ConditionTree → Prop} (h : Everywhere P tree)
    (hnode : tree.descendant? path = some node) : Everywhere P node := by
  induction path generalizing tree with
  | nil =>
    cases hnode
    exact h
  | cons name path ih =>
    rw [descendant?_cons] at hnode
    obtain ⟨child, hchild, hnode⟩ := Option.bind_eq_some_iff.mp hnode
    exact ih (h.inside (Vocabulary.mem_of_lookup hchild)) hnode

theorem runAt_of_error {change : Change} {e : ConditionError}
    (hnode : tree.descendant? path = some node) (h : change.run catalog node = .error e) :
    change.runAt catalog path tree = (tree, .error e) := by
  induction path generalizing tree with
  | nil =>
    cases hnode
    exact Change.runAt_nil_of_error h
  | cons name path ih =>
    rw [descendant?_cons] at hnode
    obtain ⟨child, hchild, hnode⟩ := Option.bind_eq_some_iff.mp hnode
    have hbelow := ih hnode
    rw [Change.runAt] at hbelow ⊢
    rw [visit, relation_of_child? hchild]
    simp only [hbelow, withChild_self hchild]

theorem runAt_of_ok {change : Change} {node' : ConditionTree}
    (hnode : tree.descendant? path = some node) (h : change.run catalog node = .ok node') :
    (change.runAt catalog path tree).2 = .ok () ∧
      (change.runAt catalog path tree).1.descendant? path = some node' := by
  induction path generalizing tree with
  | nil =>
    cases hnode
    rw [Change.runAt_nil_of_ok h]
    exact ⟨rfl, rfl⟩
  | cons name path ih =>
    rw [descendant?_cons] at hnode
    obtain ⟨child, hchild, hnode⟩ := Option.bind_eq_some_iff.mp hnode
    obtain ⟨hresult, hbelow⟩ := ih hnode
    rw [Change.runAt] at hresult hbelow ⊢
    rw [visit, relation_of_child? hchild, descendant?_cons, child?_withChild, if_pos rfl]
    exact ⟨hresult, hbelow⟩

end ConditionTree

end SearchFilter
