import SearchFilter.Kind.Operation
import SearchFilter.Modifier
/-!
# Condition keys

What a condition name stands for: a column, modifiers from the inside out, and a kind that applies to the type they lead to. The canonical name is made of the names of these parts with underscores between them, and two keys are the same condition if they have the same canonical name.
-/

namespace SearchFilter

structure ConditionKey where
  name : String
  column : Column
  /-- The quoted column, with its table. -/
  columnRef : String
  modifiers : List Modifier
  kind : Kind
  /-- The type that the kind sees. -/
  valueType : SemanticType
deriving DecidableEq, Repr

namespace ConditionKey

/-- The column name with the names of modifiers behind it. -/
def modifiedName (column : String) (modifiers : List Modifier) : String :=
  modifiers.foldl (fun name modifier => name ++ "_" ++ modifier.name) column

def ofParts (column : Column) (columnRef : String) (modifiers : List Modifier) (kind : Kind)
    (valueType : SemanticType) : ConditionKey where
  name := kind.canonicalName (modifiedName column.name modifiers)
  column
  columnRef
  modifiers
  kind
  valueType

/-- All modifiers applied to a value. -/
def transform (key : ConditionKey) (v : Value) : Value :=
  key.modifiers.foldl (fun v modifier => modifier.transform v) v

/-- All modifiers wrapped around the column. -/
def wrappedColumn (key : ConditionKey) : String :=
  key.modifiers.foldl (fun column modifier => modifier.wrap column) key.columnRef

def compile (key : ConditionKey) (v : Value) : Fragment := key.kind.compile key.wrappedColumn (key.transform v)

/-- The parts of the key, for a message. -/
def partsText (key : ConditionKey) : String :=
  " + ".intercalate (key.column.name :: key.modifiers.map (·.name) ++ [key.kind.name])

end ConditionKey

end SearchFilter
