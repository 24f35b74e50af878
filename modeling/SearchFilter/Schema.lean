import SearchFilter.SemanticType
import SearchFilter.Identifier
import SearchFilter.Time.Reading
/-!
# Schemas

What is known of the entities that can be searched. A `Schema` is a list of definitions. A `SchemaSource` is what the rest of the library asks: it may be backed by such a list, or answer in its own way, quote names for another database and read points in time by another rule.
-/

namespace SearchFilter

structure Column where
  name : String
  type : SemanticType
deriving DecidableEq, Repr

/-- A named way from one entity to another. -/
structure Relationship where
  name : String
  entity : String
deriving DecidableEq, Repr

/-- One entity. The two lists of names say which conditions untrusted input may set. -/
structure EntityDefinition where
  name : String
  table : Option String := none
  columns : List Column := []
  relationships : List Relationship := []
  accessible : Option (List String) := none
  denied : Option (List String) := none
deriving DecidableEq, Repr

/-- The table of an entity: the one it names, or else the plural of its name. -/
def EntityDefinition.tableName (definition : EntityDefinition) : String :=
  definition.table.getD (Identifier.defaultTable definition.name)

/-- Definitions in the order in which they were made. -/
structure Schema where
  definitions : List EntityDefinition
deriving DecidableEq, Repr

namespace Schema

def empty : Schema := ⟨[]⟩

/-- Adds a definition at the end, in place of one with the same name. -/
def add (schema : Schema) (definition : EntityDefinition) : Schema :=
  ⟨schema.definitions.filter (fun other => other.name ≠ definition.name) ++ [definition]⟩

def find? (schema : Schema) (entity : String) : Option EntityDefinition :=
  schema.definitions.find? fun definition => definition.name == entity

end Schema

/-- The questions that are asked about a schema. -/
structure SchemaSource where
  entities : List String
  tableName : String → Option String
  columns : String → Option (List Column)
  relationships : String → Option (List Relationship)
  quote : String → String := Identifier.quote
  parseTemporal : String → Option Timestamp := Timestamp.ofText?

def Schema.source (schema : Schema) : SchemaSource where
  entities := schema.definitions.map (·.name)
  tableName entity := (schema.find? entity).map (·.tableName)
  columns entity := (schema.find? entity).map (·.columns)
  relationships entity := (schema.find? entity).map (·.relationships)

end SearchFilter
