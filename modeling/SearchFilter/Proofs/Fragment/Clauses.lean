import SearchFilter.ConditionTree.Report
/-!
# Where a clause stands

The fragment of a tree is made of the clauses of its nodes. `ClauseAt tree left clause right` says that `clause` is a clause of the tree or of a node below it, and that `left` and `right` are the parts of the compiled tree before and behind it. `ClauseAt.compile_eq` confirms that the three make up the compiled tree. Both parts are fragments, so they carry the values that were bound up to the clause and behind it.
-/

namespace SearchFilter

namespace Fragment

def text (s : String) : Fragment := ⟨s, []⟩

instance : Append Fragment := ⟨fun f g => ⟨f.template ++ g.template, f.binds ++ g.binds⟩⟩

@[simp] theorem append_template (f g : Fragment) : (f ++ g).template = f.template ++ g.template :=
    rfl

@[simp] theorem append_binds (f g : Fragment) : (f ++ g).binds = f.binds ++ g.binds := rfl

theorem eq_of_parts {f g : Fragment} (htemplate : f.template = g.template)
    (hbinds : f.binds = g.binds) : f = g := by
  cases f
  cases g
  rw [mk.injEq]
  exact ⟨htemplate, hbinds⟩

theorem append_assoc (f g h : Fragment) : f ++ g ++ h = f ++ (g ++ h) :=
  eq_of_parts (String.append_assoc ..) (List.append_assoc ..)

theorem append_empty (f : Fragment) : f ++ empty = f :=
  eq_of_parts (String.append_empty ..) (List.append_nil ..)

theorem empty_append (f : Fragment) : empty ++ f = f :=
  eq_of_parts (String.empty_append ..) (List.nil_append ..)

theorem parenthesized_eq (f : Fragment) : f.parenthesized = text "(" ++ f ++ text ")" :=
  eq_of_parts rfl (List.append_nil f.binds).symm

/-! ### Conjunctions -/

def leading : List Fragment → Fragment
  | [] => empty
  | clause :: rest => clause ++ text " AND " ++ leading rest

def trailing : List Fragment → Fragment
  | [] => empty
  | clause :: rest => text " AND " ++ clause ++ trailing rest

theorem conjunction_cons_cons (first second : Fragment) (rest : List Fragment) :
    conjunction (first :: second :: rest) = first ++ text " AND " ++
      conjunction (second :: rest) := by
  refine eq_of_parts ?_ ?_
  · simp only [conjunction, List.map_cons, String.intercalate_cons_cons, append_template, text]
  · simp only [conjunction, List.flatMap_cons, append_binds, text, List.append_nil]

theorem conjunction_cons (clause : Fragment) (rest : List Fragment) :
    conjunction (clause :: rest) = clause ++ trailing rest := by
  induction rest generalizing clause with
  | nil =>
    rw [trailing, append_empty]
    exact eq_of_parts rfl (List.append_nil clause.binds)
  | cons second rest ih => rw [conjunction_cons_cons, ih, trailing, append_assoc, append_assoc]

theorem conjunction_append_cons (before : List Fragment) (clause : Fragment)
    (after : List Fragment) :
    conjunction (before ++ clause :: after) = leading before ++ clause ++ trailing after := by
  induction before with
  | nil => rw [List.nil_append, conjunction_cons, leading, empty_append]
  | cons first rest ih =>
    have hrest : conjunction (first :: (rest ++ clause :: after)) =
        first ++ text " AND " ++ conjunction (rest ++ clause :: after) := by
      cases rest with
      | nil => exact conjunction_cons_cons first clause after
      | cons second rest => exact conjunction_cons_cons first second (rest ++ clause :: after)
    rw [List.cons_append, hrest, ih, leading, append_assoc, append_assoc, append_assoc,
      append_assoc, append_assoc]

/-! ### Emptiness -/

theorem parenthesized_isEmpty (f : Fragment) : f.parenthesized.isEmpty = false := by
  rw [isEmpty, ← Bool.not_eq_true, String.isEmpty_iff]
  intro hnil
  have hlist : ("(" ++ f.template ++ ")").toList = [] := by
    rw [← String.toList_empty, ← hnil, parenthesized]
  simp at hlist

theorem conjunction_isEmpty_iff {clauses : List Fragment}
    (h : ∀ clause ∈ clauses, clause.isEmpty = false) :
    (conjunction clauses).isEmpty = true ↔ clauses = [] := by
  cases clauses with
  | nil => exact iff_of_true rfl rfl
  | cons clause rest =>
    have hclause := h clause List.mem_cons_self
    rw [isEmpty, ← Bool.not_eq_true, String.isEmpty_iff] at hclause
    refine iff_of_false (fun hempty => hclause ?_) (List.cons_ne_nil _ _)
    rw [conjunction_cons, isEmpty, String.isEmpty_iff, append_template,
      String.append_eq_empty_iff] at hempty
    exact hempty.1

end Fragment

namespace ConditionTree

open Fragment

/-! ### The clauses of a node -/

theorem clauses_eq (tree : ConditionTree) :
    tree.clauses = conditionClauses tree.conditions ++ relationClauses tree.relations ++
      scopeClause tree.scope := by
  cases tree
  rw [clauses]

theorem relationClauses_cons (name : String) (child : ConditionTree)
    (rest : List (String × ConditionTree)) :
    relationClauses ((name, child) :: rest) =
      if child.compile.isEmpty then relationClauses rest
        else child.compile.parenthesized :: relationClauses rest := by
  rw [relationClauses]
  rfl

theorem relationClauses_append (before after : List (String × ConditionTree)) :
    relationClauses (before ++ after) = relationClauses before ++ relationClauses after := by
  induction before with
  | nil => rw [List.nil_append, relationClauses, List.nil_append]
  | cons pair before ih =>
    obtain ⟨name, child⟩ := pair
    rw [List.cons_append, relationClauses_cons, relationClauses_cons, ih]
    split
    · rfl
    · rw [List.cons_append]

theorem mem_relationClauses_iff {clause : Fragment} {relations : List (String × ConditionTree)} :
    clause ∈ relationClauses relations ↔ ∃ name child, (name, child) ∈ relations ∧
      child.compile.isEmpty = false ∧ clause = child.compile.parenthesized := by
  induction relations with
  | nil =>
    rw [relationClauses]
    exact iff_of_false List.not_mem_nil (by simp)
  | cons pair rest ih =>
    obtain ⟨name, child⟩ := pair
    have hrest : clause ∈ relationClauses rest → ∃ other below,
        (other, below) ∈ (name, child) :: rest ∧ below.compile.isEmpty = false ∧
          clause = below.compile.parenthesized := by
      intro h
      obtain ⟨other, below, hmem, hbelow⟩ := ih.mp h
      exact ⟨other, below, List.mem_cons_of_mem _ hmem, hbelow⟩
    rw [relationClauses_cons]
    constructor
    · intro h
      split at h
      · exact hrest h
      · rename_i hnonempty
        rcases List.mem_cons.mp h with rfl | h
        · exact ⟨name, child, List.mem_cons_self, Bool.eq_false_iff.mpr hnonempty, rfl⟩
        · exact hrest h
    · rintro ⟨other, below, hmem, hnonempty, rfl⟩
      rcases List.mem_cons.mp hmem with heq | hmem
      · cases heq
        rw [if_neg (Bool.eq_false_iff.mp hnonempty)]
        exact List.mem_cons_self
      · have hclause := ih.mpr ⟨other, below, hmem, hnonempty, rfl⟩
        split
        · exact hclause
        · exact List.mem_cons_of_mem _ hclause

theorem mem_clauses_iff {tree : ConditionTree} {clause : Fragment} : clause ∈ tree.clauses ↔
    (∃ key v, (key, v) ∈ tree.conditions ∧ clause = (key.compile v).parenthesized) ∨
    (∃ name child, (name, child) ∈ tree.relations ∧ child.compile.isEmpty = false ∧
      clause = child.compile.parenthesized) ∨
    ∃ scope, tree.scope = some scope ∧ clause = text scope := by
  have hconditions : clause ∈ conditionClauses tree.conditions ↔
      ∃ key v, (key, v) ∈ tree.conditions ∧ clause = (key.compile v).parenthesized := by
    simp only [conditionClauses, List.mem_map, Prod.exists, eq_comm]
  have hscope : clause ∈ scopeClause tree.scope ↔
      ∃ scope, tree.scope = some scope ∧ clause = text scope := by
    cases tree.scope with
    | none => exact iff_of_false List.not_mem_nil (by simp)
    | some scope => simp [scopeClause, text]
  rw [clauses_eq, List.mem_append, List.mem_append, hconditions, mem_relationClauses_iff, hscope,
    or_assoc]

/-! ### Standing in the whole -/

/-- In the compiled tree the clause stands between the two parts. It is a clause of the tree itself, or one of a related tree that is not empty; then the rest of that tree and its parentheses belong to the parts. -/
inductive ClauseAt : ConditionTree → Fragment → Fragment → Fragment → Prop
  | own {tree : ConditionTree} {before after : List Fragment} {clause : Fragment}
      (h : tree.clauses = before ++ clause :: after) :
      ClauseAt tree (leading before) clause (trailing after)
  | inside {tree child : ConditionTree} {name : String}
      {before after : List (String × ConditionTree)} {left clause right : Fragment}
      (hchild : tree.relations = before ++ (name, child) :: after)
      (hnonempty : child.compile.isEmpty = false) (h : ClauseAt child left clause right) :
      ClauseAt tree (leading (conditionClauses tree.conditions ++ relationClauses before) ++
        text "(" ++ left) clause
        (right ++ text ")" ++ trailing (relationClauses after ++ scopeClause tree.scope))

/-- The clauses of a node around the one of a relationship. -/
theorem clauses_eq_of_relation {tree child : ConditionTree} {name : String}
    {before after : List (String × ConditionTree)}
    (hchild : tree.relations = before ++ (name, child) :: after)
    (hnonempty : child.compile.isEmpty = false) :
    tree.clauses = (conditionClauses tree.conditions ++ relationClauses before) ++
      child.compile.parenthesized :: (relationClauses after ++ scopeClause tree.scope) := by
  have hclause : ¬ child.compile.isEmpty = true := by rw [hnonempty]; exact Bool.false_ne_true
  rw [clauses_eq, hchild, relationClauses_append, relationClauses_cons, if_neg hclause]
  simp only [List.append_assoc, List.cons_append]

theorem ClauseAt.compile_eq {tree : ConditionTree} {left clause right : Fragment}
    (h : ClauseAt tree left clause right) : tree.compile = left ++ clause ++ right := by
  induction h with
  | own h => rw [compile, h, conjunction_append_cons]
  | inside hchild hnonempty _ ih =>
    rw [compile, clauses_eq_of_relation hchild hnonempty, conjunction_append_cons, parenthesized_eq,
      ih]
    simp only [append_assoc]

end ConditionTree

end SearchFilter
