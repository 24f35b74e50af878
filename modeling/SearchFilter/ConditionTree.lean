import SearchFilter.Catalog
import SearchFilter.ConditionError
/-!
# Trees of conditions

A tree holds what is asked of one entity: its conditions with their values in the order in which they became active, a tree for each relationship that was followed, in the order in which it was first followed, and a raw scope. Trees are values. The catalog, which never changes, is given where a related entity has to be looked up or a point in time read.

A condition is known by its canonical name, so all names of one condition reach the same value.
-/

namespace SearchFilter

structure ConditionTree where
  vocabulary : Vocabulary
  conditions : List (ConditionKey × Value)
  relations : List (String × ConditionTree)
  /-- A complete condition in the language of the database, added last. -/
  scope : Option String
  /-- Input in bulk is not trusted. -/
  isProtected : Bool

namespace Catalog

/-- The vocabulary of an entity that has to exist. -/
def vocabulary (catalog : Catalog) (entity : String) : Except ConditionError Vocabulary :=
  match catalog.vocabulary? entity with
  | some vocabulary => .ok vocabulary
  | none => .error (.unknownEntity entity)

end Catalog

namespace ConditionTree

def fresh (vocabulary : Vocabulary) (isProtected : Bool) : ConditionTree where
  vocabulary
  conditions := []
  relations := []
  scope := none
  isProtected

def forEntity (catalog : Catalog) (entity : String) (isProtected : Bool) : Except ConditionError ConditionTree := do
  return fresh (← catalog.vocabulary entity) isProtected

def entity (tree : ConditionTree) : String := tree.vocabulary.entity

def unknown (tree : ConditionTree) (name : String) : ConditionError := .unknownCondition tree.entity name

/-- The key of a condition name that has to exist. -/
def resolve (tree : ConditionTree) (name : String) : Except ConditionError ConditionKey :=
  match tree.vocabulary.resolve? name with
  | some key => .ok key
  | none => .error (tree.unknown name)

/-! ### Conditions -/

/-- The value of a canonical name. -/
def valueOf? (name : String) : List (ConditionKey × Value) → Option Value
  | [] => none
  | (key, v) :: rest => if key.name = name then some v else valueOf? name rest

/-- Puts a value in the place of the one that the condition has, or at the end. -/
def store (key : ConditionKey) (v : Value) : List (ConditionKey × Value) → List (ConditionKey × Value)
  | [] => [(key, v)]
  | (other, w) :: rest => if other.name = key.name then (other, v) :: rest else (other, w) :: store key v rest

def get (tree : ConditionTree) (name : String) : Except ConditionError (Option Value) := do
  let key ← tree.resolve name
  return valueOf? key.name tree.conditions

def unset (key : ConditionKey) (tree : ConditionTree) : ConditionTree :=
  { tree with conditions := tree.conditions.filter fun (other, _) => other.name ≠ key.name }

/-- Gives a condition a value after coercing it. Null makes the condition inactive. -/
def assign (catalog : Catalog) (key : ConditionKey) (v : Value) (tree : ConditionTree) :
    Except ConditionError ConditionTree :=
  if v.isNull then .ok (tree.unset key)
  else
    match key.kind.coerce catalog.source.parseTemporal key.valueType v with
    | .ok w => .ok { tree with conditions := store key w tree.conditions }
    | .error e => .error (.invalidValue key.name (.coercion e))

def set (catalog : Catalog) (name : String) (v : Value) (tree : ConditionTree) :
    Except ConditionError ConditionTree := do
  tree.assign catalog (← tree.resolve name) v

/-! ### Relationships -/

/-- The tree of a relationship that was followed before. -/
def child? (tree : ConditionTree) (name : String) : Option ConditionTree := tree.relations.lookup name

/-- The tree of a relationship: the one there is, or a fresh one that is protected like its parent. -/
def relation (catalog : Catalog) (name : String) (tree : ConditionTree) : Except ConditionError ConditionTree :=
  match tree.child? name with
  | some child => .ok child
  | none =>
    match tree.vocabulary.relationship? name with
    | none => .error (tree.unknown name)
    | some relationship => (catalog.vocabulary relationship.entity).map fun vocabulary => fresh vocabulary tree.isProtected

/-- Puts a tree in the place of the one with its name, or at the end. -/
def putChild (name : String) (child : ConditionTree) :
    List (String × ConditionTree) → List (String × ConditionTree)
  | [] => [(name, child)]
  | (other, tree) :: rest => if other = name then (name, child) :: rest else (other, tree) :: putChild name child rest

def withChild (tree : ConditionTree) (name : String) (child : ConditionTree) : ConditionTree :=
  { tree with relations := putChild name child tree.relations }

/-! ### Scope, protection and reset -/

/-- Sets the raw scope. It is refused on protected trees, a blank one removes what is set, and one with a question mark is not valid. -/
def setScope (scope : String) (tree : ConditionTree) : Except ConditionError ConditionTree :=
  if tree.isProtected then .error (.injectionRisk tree.entity)
  else if scope.toList.all Text.isBlank then .ok { tree with scope := none }
  else if scope.toList.contains '?' then .error (.invalidValue "scope" .placeholderInScope)
  else .ok { tree with scope := some scope }

def clearScope (tree : ConditionTree) : ConditionTree := { tree with scope := none }

/-- Trees of relationships that were followed before keep their own setting. -/
def setProtected (on : Bool) (tree : ConditionTree) : ConditionTree := { tree with isProtected := on }

/-- Makes a condition inactive, or forgets the tree of a relationship. -/
def reset (name : String) (tree : ConditionTree) : Except ConditionError ConditionTree :=
  match tree.vocabulary.relationship? name with
  | some _ => .ok { tree with relations := tree.relations.filter fun (other, _) => other ≠ name }
  | none => (tree.resolve name).map fun key => tree.unset key

/-- Forgets all conditions, relationships and the scope. -/
def resetAll (tree : ConditionTree) : ConditionTree := fresh tree.vocabulary tree.isProtected

end ConditionTree

end SearchFilter
