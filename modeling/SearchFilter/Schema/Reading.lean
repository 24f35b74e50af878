import SearchFilter.Schema
import SearchFilter.ConfigurationError
import SearchFilter.Toml.Reading
/-!
# Reading schema files

A schema file is a TOML document with the single key `entity`, a list of definitions. A definition has the keys `name`, `table`, `column`, `relationship`, `accessible` and `protected`, of which only the name is required, and no others. Columns and relationships require both of their keys and ignore others.

Definitions, columns and relationships may also be written as lists of their values in that order. Values at the end may be missing if they are not required, and further ones are not even read.
-/

namespace SearchFilter

namespace Schema

/-! ### Parts of a document -/

def textOf? : Toml → Option String
  | .text s => some s
  | _ => none

def listOf? : Toml → Option (List Toml)
  | .list items => some items
  | _ => none

mutual

/-- Every number in the value has a value itself. The values of ignored keys have to pass this, too. -/
def isReadable : Toml → Bool
  | .text _ => true
  | .scalar form => form ≠ .valueless
  | .list items => areReadable items
  | .table entries => areEntriesReadable entries

def areReadable : List Toml → Bool
  | [] => true
  | item :: items => isReadable item && areReadable items

def areEntriesReadable : List (String × Toml) → Bool
  | [] => true
  | (_, value) :: entries => isReadable value && areEntriesReadable entries

end

/-- The values of a record in the order of its keys, from a table or a list. A table gives nothing for a key it does not have. Keys besides those of the record are refused if it is closed. -/
def recordOf? (keys : List String) (closed : Bool) : Toml → Option (List (Option Toml))
  | .table entries =>
    let others := entries.filter fun entry => entry.1 ∉ keys
    if (if closed then others.isEmpty else areEntriesReadable others) then some (keys.map fun key => entries.lookup key) else none
  | .list items => some ((List.range keys.length).map fun i => items[i]?)
  | _ => none

/-- A name of a type, alone or as the only key of a table with nothing in it. -/
def typeOf? : Toml → Option SemanticType
  | .text s => SemanticType.ofSchemaName? s
  | .table [(s, .table [])] => SemanticType.ofSchemaName? s
  | .table [(s, .list [])] => SemanticType.ofSchemaName? s
  | _ => none

def columnOf? (value : Toml) : Option Column :=
  match recordOf? ["name", "type"] false value with
  | some [some name, some type] => do return ⟨← textOf? name, ← typeOf? type⟩
  | _ => none

def relationshipOf? (value : Toml) : Option Relationship :=
  match recordOf? ["name", "entity"] false value with
  | some [some name, some entity] => do return ⟨← textOf? name, ← textOf? entity⟩
  | _ => none

/-- A list whose items are all read, empty where there is none. -/
def itemsOf? {α : Type} (item? : Toml → Option α) : Option Toml → Option (List α)
  | none => some []
  | some value => (listOf? value).bind fun items => items.mapM item?

/-- A value that need not be there. -/
def optionalOf? {α : Type} (value? : Toml → Option α) : Option Toml → Option (Option α)
  | none => some none
  | some value => (value? value).map some

def namesOf? (value : Toml) : Option (List String) := itemsOf? textOf? (some value)

def definitionOf? (value : Toml) : Option EntityDefinition :=
  match recordOf? ["name", "table", "column", "relationship", "accessible", "protected"] true value with
  | some [some name, table, columns, relationships, accessible, denied] => do
    return {
      name := ← textOf? name
      table := ← optionalOf? textOf? table
      columns := ← itemsOf? columnOf? columns
      relationships := ← itemsOf? relationshipOf? relationships
      accessible := ← optionalOf? namesOf? accessible
      denied := ← optionalOf? namesOf? denied }
  | _ => none

def definitionsOf? (entries : List (String × Toml)) : Option (List EntityDefinition) :=
  match recordOf? ["entity"] true (.table entries) with
  | some [definitions] => itemsOf? definitionOf? definitions
  | _ => none

/-! ### Files -/

/-- The first definition whose name an earlier one has. -/
def repeated? (before : List String) : List EntityDefinition → Option String
  | [] => none
  | definition :: rest =>
    if definition.name ∈ before then some definition.name else repeated? (definition.name :: before) rest

/-- The schema of a file. Each entity may be defined once. -/
def ofToml (source : String) : Except ConfigurationError Schema :=
  match (Toml.ofText? source).bind definitionsOf? with
  | none => .error .invalidSchemaFile
  | some definitions =>
    match repeated? [] definitions with
    | some entity => .error (.duplicateEntity entity)
    | none => .ok ⟨definitions⟩

end Schema

end SearchFilter
