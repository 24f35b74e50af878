import SearchFilter.ConditionTree
import SearchFilter.Params
/-!
# Input in bulk

Parameters are applied to a tree pair by pair: names of conditions are assigned, names of relationships are followed, and a text in the place of a mapping is the scope there. Either all pairs are applied or none.

Input is untrusted below a protected tree. Then a policy may withhold a name: a condition is passed over, and of a relationship nothing is applied, but what stands below it is still screened. A raw scope in untrusted input is an error wherever it stands, and so is an unknown name in any input.
-/

namespace SearchFilter

namespace ConditionTree

/-! ### Screening -/

mutual

/-- Finds raw scopes and unknown names in input that is not applied. -/
def screen (catalog : Catalog) (vocabulary : Vocabulary) : Params → Except ConditionError Unit
  | .mapping pairs => screenPairs catalog vocabulary pairs
  | .value (.string _) => .error (.injectionRisk vocabulary.entity)
  | .value _ => .ok ()

def screenPairs (catalog : Catalog) (vocabulary : Vocabulary) : List (String × Params) → Except ConditionError Unit
  | [] => .ok ()
  | (name, params) :: rest =>
    match vocabulary.relationship? name with
    | some relationship => do
      let target ← catalog.vocabulary relationship.entity
      screen catalog target params
      screenPairs catalog vocabulary rest
    | none =>
      match vocabulary.resolve? name with
      | some _ => screenPairs catalog vocabulary rest
      | none => .error (.unknownCondition vocabulary.entity name)

end

/-! ### Applying -/

/-- The policy withholds the name from untrusted input. -/
def withholds (tree : ConditionTree) (untrusted : Bool) (name : String) : Bool :=
  untrusted && !tree.vocabulary.policy.permits name

/-- Applies a single value: null changes nothing, and a text is a scope. -/
def applyValue (untrusted : Bool) (v : Value) (tree : ConditionTree) : Except ConditionError ConditionTree :=
  match v with
  | .null => .ok tree
  | .string scope => if untrusted then .error (.injectionRisk tree.entity) else tree.setScope scope
  | v => .error (.invalidValue "scope" (.notScope v.form))

/-- Applies a pair whose name is that of a condition. The empty text makes the condition inactive. -/
def applyCondition (catalog : Catalog) (untrusted : Bool) (name : String) (params : Params) (tree : ConditionTree) :
    Except ConditionError ConditionTree := do
  let key ← tree.resolve name
  if tree.withholds untrusted key.name then .ok tree
  else
    match params with
    | .mapping _ => .error (.invalidValue key.name .mappingForValue)
    | .value (.string s) => if s.isEmpty then .ok (tree.unset key) else tree.assign catalog key (.string s)
    | .value v => tree.assign catalog key v

mutual

/-- Applies parameters to a tree. What is untrusted stays so below. -/
def applyParams (catalog : Catalog) (untrusted : Bool) : Params → ConditionTree → Except ConditionError ConditionTree
  | .mapping pairs, tree => applyPairs catalog (untrusted || tree.isProtected) pairs tree
  | .value v, tree => applyValue (untrusted || tree.isProtected) v tree

def applyPairs (catalog : Catalog) (untrusted : Bool) :
    List (String × Params) → ConditionTree → Except ConditionError ConditionTree
  | [], tree => .ok tree
  | (name, params) :: rest, tree =>
    match tree.vocabulary.relationship? name with
    | some relationship =>
      if tree.withholds untrusted name then do
        let target ← catalog.vocabulary relationship.entity
        screen catalog target params
        applyPairs catalog untrusted rest tree
      else do
        let child ← tree.relation catalog name
        let child ← applyParams catalog untrusted params child
        applyPairs catalog untrusted rest (tree.withChild name child)
    | none => do
      let tree ← tree.applyCondition catalog untrusted name params
      applyPairs catalog untrusted rest tree

end

/-- Applies parameters to a tree, all or none of them. -/
def apply (catalog : Catalog) (params : Params) (tree : ConditionTree) : Except ConditionError ConditionTree :=
  applyParams catalog false params tree

end ConditionTree

end SearchFilter
