import SearchFilter.ConditionTree.Report
import SearchFilter.Json.Writing
/-!
# Reports

What the command prints: the compiled filter of a tree, or the names that its entity knows. Both are JSON objects whose keys stand in ascending order.
-/

namespace SearchFilter

namespace CommandLine

mutual

/-- A bound value. Points in time are written as text, so those that have none are refused. Numbers that are not finite become null. -/
def bindJson : Value → Except Timestamp.TextError Json
  | .null => .ok .null
  | .bool b => .ok (.bool b)
  | .integer i => .ok (.number (.signed i))
  | .float x => .ok (if x.isFinite then .number (.float x) else .null)
  | .string s => .ok (.string s)
  | .timestamp t => t.text?.map .string
  | .array items => (bindsJson items).map .array

def bindsJson : List Value → Except Timestamp.TextError (List Json)
  | [] => .ok []
  | v :: rest => do
    let document ← bindJson v
    return document :: (← bindsJson rest)

end

mutual

/-- A relationship to join: its name, or an object that leads from its name to those below. -/
def includeJson : Include → Json
  | .mk name nested => if nested.isEmpty then .string name else .object [(name, .array (includesJson nested))]

def includesJson : List Include → List Json
  | [] => []
  | joined :: rest => includeJson joined :: includesJson rest

end

/-- The compiled filter. -/
def filterReport (tree : ConditionTree) : Except Timestamp.TextError Json := do
  let fragment := tree.compile
  return .object
    [("binds", .array (← bindsJson fragment.binds)),
      ("entity", .string tree.entity),
      ("includes", .array (includesJson tree.includes)),
      ("scope", (tree.scope.map .string).getD .null),
      ("template", .string fragment.template)]

/-- The names of conditions and relationships. -/
def namesReport (tree : ConditionTree) : Json :=
  .object
    [("conditions", .array (tree.vocabulary.conditionNames.map .string)),
      ("entity", .string tree.entity),
      ("relationships", .array (tree.vocabulary.relationshipNames.map .string))]

end CommandLine

end SearchFilter
