import SearchFilter.ConditionTree.Apply
/-!
# What a tree says

A tree is compiled to a fragment: one clause in parentheses for each condition, one for each relationship whose own fragment is not empty, and the scope as it stands. Besides, a tree tells its value, which is the parameters that would set it up again, and the relationships that have to be joined.
-/

namespace SearchFilter

/-- A relationship to join, with those to join below it. -/
inductive Include where
  | mk (name : String) (nested : List Include)

namespace ConditionTree

/-! ### Emptiness -/

mutual

/-- There is nothing to filter on, at any depth. -/
def isEmpty : ConditionTree → Bool
  | ⟨_, conditions, relations, scope, _⟩ => conditions.isEmpty && scope.isNone && areEmpty relations

def areEmpty : List (String × ConditionTree) → Bool
  | [] => true
  | (_, child) :: rest => child.isEmpty && areEmpty rest

end

def length (tree : ConditionTree) : Nat :=
  tree.conditions.length + (tree.relations.filter fun (_, child) => !child.isEmpty).length
    + (if tree.scope.isSome then 1 else 0)

/-! ### Compilation -/

def conditionClauses (conditions : List (ConditionKey × Value)) : List Fragment :=
  conditions.map fun (key, v) => (key.compile v).parenthesized

def scopeClause : Option String → List Fragment
  | none => []
  | some scope => [⟨scope, []⟩]

mutual

/-- The clauses of an entity in their order. -/
def clauses : ConditionTree → List Fragment
  | ⟨_, conditions, relations, scope, _⟩ =>
    conditionClauses conditions ++ relationClauses relations ++ scopeClause scope

def relationClauses : List (String × ConditionTree) → List Fragment
  | [] => []
  | (_, child) :: rest =>
    let fragment := Fragment.conjunction (clauses child)
    if fragment.isEmpty then relationClauses rest else fragment.parenthesized :: relationClauses rest

end

def compile (tree : ConditionTree) : Fragment := Fragment.conjunction tree.clauses

/-! ### Value and includes -/

def conditionPairs (conditions : List (ConditionKey × Value)) : List (String × Params) :=
  conditions.map fun (key, v) => (key.name, .value v)

mutual

/-- Canonical names with their values, then the relationships that are not empty. Scopes are left out. -/
def value : ConditionTree → Params
  | ⟨_, conditions, relations, _, _⟩ => .mapping (conditionPairs conditions ++ relationPairs relations)

def relationPairs : List (String × ConditionTree) → List (String × Params)
  | [] => []
  | (name, child) :: rest =>
    if child.isEmpty then relationPairs rest else (name, child.value) :: relationPairs rest

end

mutual

def includes : ConditionTree → List Include
  | ⟨_, _, relations, _, _⟩ => relationIncludes relations

def relationIncludes : List (String × ConditionTree) → List Include
  | [] => []
  | (name, child) :: rest =>
    if child.isEmpty then relationIncludes rest else .mk name child.includes :: relationIncludes rest

end

end ConditionTree

end SearchFilter
