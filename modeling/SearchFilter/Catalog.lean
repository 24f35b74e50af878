import SearchFilter.Vocabulary
import SearchFilter.Schema.Reading
/-!
# Catalogs

A catalog holds the vocabularies of all entities of a schema together with their policies. It is built only if every vocabulary is, every relationship leads to an entity of the schema, and every policy names conditions and relationships of its entity.
-/

namespace SearchFilter

/-- The lists of a policy as they are given, with names of any spelling. -/
structure PolicyLists where
  entity : String
  accessible : Option (List String) := none
  denied : Option (List String) := none
deriving DecidableEq, Repr

namespace PolicyLists

/-- Adds lists to those given before. For each entity a list replaces an earlier one of its sort. -/
def add (earlier : List PolicyLists) (lists : PolicyLists) : List PolicyLists :=
  match earlier with
  | [] => [lists]
  | other :: rest =>
    if other.entity = lists.entity then
      { other with
        accessible := lists.accessible <|> other.accessible
        denied := lists.denied <|> other.denied } :: rest
    else other :: add rest lists

/-- One pair of lists for each entity, in the order of the code points of their names. -/
def merged (policies : List PolicyLists) : List PolicyLists :=
  Text.sortByKey entity (policies.foldl add [])

/-- The canonical names of a list. Names of relationships stay as they are. -/
def canonical (vocabulary : Vocabulary) : List String → Except ConfigurationError (List String)
  | [] => .ok []
  | name :: rest =>
    match vocabulary.relationship? name with
    | some _ => (canonical vocabulary rest).map (name :: ·)
    | none =>
      match vocabulary.resolve? name with
      | some key => (canonical vocabulary rest).map (key.name :: ·)
      | none => .error (.unknownProtectedName vocabulary.entity name)

def canonicalOptional (vocabulary : Vocabulary) :
    Option (List String) → Except ConfigurationError (Option (List String))
  | none => .ok none
  | some names => (canonical vocabulary names).map some

end PolicyLists

structure Catalog where
  source : SchemaSource
  vocabularies : List Vocabulary

namespace Catalog

def vocabulary? (catalog : Catalog) (entity : String) : Option Vocabulary :=
  catalog.vocabularies.find? fun vocabulary => vocabulary.entity == entity

/-- The names of all entities in the order of their code points. -/
def entities (catalog : Catalog) : List String := Text.sort (catalog.vocabularies.map (·.entity))

/-! ### Building -/

/-- Adds the vocabulary of the next entity. -/
def addEntity (registry : Registry) (source : SchemaSource) (vocabularies : List Vocabulary) (entity : String) :
    Except ConfigurationError (List Vocabulary) :=
  if vocabularies.any fun vocabulary => vocabulary.entity == entity then .error (.duplicateEntity entity)
  else do
    let vocabulary ← Vocabulary.build registry source entity
    match vocabulary.relationships.find? fun relationship => !source.entities.contains relationship.entity with
    | some relationship => .error (.unknownRelatedEntity entity relationship.name relationship.entity)
    | none => .ok (vocabularies ++ [vocabulary])

/-- Gives the lists of a policy to the vocabulary of their entity. Nothing is done where both are missing. -/
def addPolicy (vocabularies : List Vocabulary) (lists : PolicyLists) :
    Except ConfigurationError (List Vocabulary) :=
  if lists.accessible.isNone && lists.denied.isNone then .ok vocabularies
  else
    match vocabularies.find? fun vocabulary => vocabulary.entity == lists.entity with
    | none => .error (.unknownEntity lists.entity)
    | some vocabulary => do
      let accessible ← PolicyLists.canonicalOptional vocabulary lists.accessible
      let denied ← PolicyLists.canonicalOptional vocabulary lists.denied
      return vocabularies.map fun other =>
        if other.entity = lists.entity then { other with policy := { accessible, denied } } else other

/-- The catalog of a schema with the given policies. -/
def build (registry : Registry) (source : SchemaSource) (policies : List PolicyLists) :
    Except ConfigurationError Catalog := do
  let vocabularies ← source.entities.foldlM (addEntity registry source) []
  let vocabularies ← (PolicyLists.merged policies).foldlM addPolicy vocabularies
  return { source, vocabularies }

/-- The catalog of a list of definitions, with the policies that they hold. -/
def ofSchema (registry : Registry) (schema : Schema) : Except ConfigurationError Catalog :=
  build registry schema.source
    (schema.definitions.map fun definition =>
      { entity := definition.name, accessible := definition.accessible, denied := definition.denied })

def ofToml (registry : Registry) (source : String) : Except ConfigurationError Catalog := do
  ofSchema registry (← Schema.ofToml source)

end Catalog

end SearchFilter
