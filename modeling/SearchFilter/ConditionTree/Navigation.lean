import SearchFilter.ConditionTree.Report
/-!
# Working inside a tree

A node of a tree is reached by a path of relationship names. Following a relationship makes a tree for it where there is none, and that tree stays even if a later step of the path leads nowhere or what is done at its end fails. What fails changes nothing else.
-/

namespace SearchFilter

namespace ConditionTree

/-- Does something at the node that a path leads to. -/
def visit {α : Type} (catalog : Catalog) (action : ConditionTree → Except ConditionError (ConditionTree × α)) :
    List String → ConditionTree → ConditionTree × Except ConditionError α
  | [], tree =>
    match action tree with
    | .ok (tree, a) => (tree, .ok a)
    | .error e => (tree, .error e)
  | name :: path, tree =>
    match tree.relation catalog name with
    | .error e => (tree, .error e)
    | .ok child =>
      let (child, result) := visit catalog action path child
      (tree.withChild name child, result)

/-- The node that a path leads to, if every tree on the way is there. -/
def descendant? : List String → ConditionTree → Option ConditionTree
  | [], tree => some tree
  | name :: path, tree =>
    match tree.child? name with
    | none => none
    | some child => descendant? path child

end ConditionTree

inductive Change where
  | set (name : String) (v : Value)
  | reset (name : String)
  | resetAll
  | follow (name : String)
  | setScope (scope : String)
  | clearScope
  | setProtected (on : Bool)
  | apply (params : Params)

namespace Change

/-- Makes the change, or fails and makes none. -/
def run (catalog : Catalog) (tree : ConditionTree) : Change → Except ConditionError ConditionTree
  | set name v => tree.set catalog name v
  | reset name => tree.reset name
  | resetAll => .ok tree.resetAll
  | follow name => (tree.relation catalog name).map fun child => tree.withChild name child
  | setScope scope => tree.setScope scope
  | clearScope => .ok tree.clearScope
  | setProtected on => .ok (tree.setProtected on)
  | apply params => tree.apply catalog params

/-- Makes the change at the node that a path leads to. -/
def runAt (catalog : Catalog) (path : List String) (change : Change) (tree : ConditionTree) :
    ConditionTree × Except ConditionError Unit :=
  tree.visit catalog (fun node => (change.run catalog node).map fun node => (node, ())) path

end Change

end SearchFilter
