import SearchFilter.ConditionKey
import SearchFilter.Registry
import SearchFilter.Policy
/-!
# Vocabularies

The condition names of one entity. The names of all columns with all kinds that apply to them are enumerated when the vocabulary is built. Names with modifiers are without number, so they are read when they are looked up: after a column and an underscore come one or more modifier tokens and the suffix of a kind, and each modifier takes the type that the one before it leads to.

A name may be read in several ways. An enumerated name counts as such. Else the first column that gives a reading counts, with as many segments for modifiers as possible and the longest possible token first.

A vocabulary is built only if no two enumerated names are equal, no relationship has an enumerated name, and no enumerated name can also be read with modifiers.
-/

namespace SearchFilter

structure ColumnRef where
  column : Column
  text : String
deriving DecidableEq, Repr

structure Vocabulary where
  entity : String
  columns : List ColumnRef
  relationships : List Relationship
  /-- The enumerated keys in the order of the columns and, for each, of the kinds. -/
  keys : List ConditionKey
  names : List (String × ConditionKey)
  registry : Registry
  policy : Policy := {}

namespace Vocabulary

/-! ### Names with modifiers -/

def segments (s : List Char) : List String := (s.splitOn '_').map String.ofList

/-- The ways to divide a list into two parts that are not empty, the longest first part first. -/
def divisions {α : Type} : List α → List (List α × List α)
  | [] => []
  | [_] => []
  | a :: rest => (divisions rest).map (fun (left, right) => (a :: left, right)) ++ [([a], rest)]

/-- A modifier with this token that takes the type. -/
def modifierFor? (modifiers : List Modifier) (type : SemanticType) (token : String) : Option Modifier :=
  (Modifier.resolve? modifiers token).filter fun modifier => modifier.appliesTo type

/-- Reads a chain of modifiers whose first token begins with `pending`, and returns it with the type that it leads to. A longer token is preferred, if the rest can then be read. -/
def chainFrom? (modifiers : List Modifier) (type : SemanticType) (pending : String) :
    List String → Option (List Modifier × SemanticType)
  | [] => (modifierFor? modifiers type pending).map fun modifier => ([modifier], modifier.returnType type)
  | segment :: rest =>
    match chainFrom? modifiers type (pending ++ "_" ++ segment) rest with
    | some chain => some chain
    | none =>
      match modifierFor? modifiers type pending with
      | none => none
      | some modifier =>
        (chainFrom? modifiers (modifier.returnType type) segment rest).map fun (chain, result) =>
          (modifier :: chain, result)

/-- Reads segments as a chain of modifiers, each of which takes the type before it. -/
def chain? (modifiers : List Modifier) (type : SemanticType) :
    List String → Option (List Modifier × SemanticType)
  | [] => some ([], type)
  | segment :: rest => chainFrom? modifiers type segment rest

/-- Reads segments as a chain of modifiers and others as the suffix of a kind. -/
def readDivision? (registry : Registry) (column : ColumnRef) (chain suffix : List String) : Option ConditionKey :=
  match chain? registry.modifiers column.column.type chain with
  | none => none
  | some (modifiers, type) =>
    (Kind.resolveSuffix? registry.kinds ("_".intercalate suffix) type).map fun kind =>
      ConditionKey.ofParts column.column column.text modifiers kind type

def readModified? (registry : Registry) (name : String) (column : ColumnRef) : Option ConditionKey :=
  match List.isPrefixOf? (column.column.name.toList ++ ['_']) name.toList with
  | none => none
  | some rest => (divisions (segments rest)).findSome? fun (chain, suffix) => readDivision? registry column chain suffix

def resolveModified? (registry : Registry) (columns : List ColumnRef) (name : String) : Option ConditionKey :=
  columns.findSome? (readModified? registry name)

def resolve? (vocabulary : Vocabulary) (name : String) : Option ConditionKey :=
  match vocabulary.names.lookup name with
  | some key => some key
  | none => resolveModified? vocabulary.registry vocabulary.columns name

/-! ### Relationships and canonical names -/

def relationship? (vocabulary : Vocabulary) (name : String) : Option Relationship :=
  vocabulary.relationships.find? fun relationship => relationship.name == name

def conditionNames (vocabulary : Vocabulary) : List String := vocabulary.keys.map (·.name)

def relationshipNames (vocabulary : Vocabulary) : List String := vocabulary.relationships.map (·.name)

/-! ### Building -/

/-- The keys of a column, one for each kind that applies to it. -/
def keysOf (kinds : List Kind) (column : ColumnRef) : List ConditionKey :=
  (kinds.filter fun kind => kind.appliesTo column.column.type).map fun kind =>
    ConditionKey.ofParts column.column column.text [] kind column.column.type

def namesOf (key : ConditionKey) : List String := key.kind.namesFor key.column

/-- Adds the names of a key, unless an earlier key has one of them. -/
def addNames (entity : String) (names : List (String × ConditionKey)) (key : ConditionKey) :
    Except ConfigurationError (List (String × ConditionKey)) :=
  match (namesOf key).findSome? fun name => (names.lookup name).map fun other => (name, other) with
  | some (name, other) => .error (.ambiguousName entity name other.name key.name)
  | none => .ok (names ++ (namesOf key).map fun name => (name, key))

/-- The first enumerated name, in the order of code points, that can also be read with modifiers. The result is the name, its key and the other key. -/
def overlap? (registry : Registry) (columns : List ColumnRef) (names : List (String × ConditionKey)) :
    Option (String × ConditionKey × ConditionKey) :=
  (Text.sortByKey Prod.fst names).findSome? fun (name, key) =>
    (resolveModified? registry columns name).map fun other => (name, key, other)

/-- The first name that is not valid: of the table, of a column or of a relationship. -/
def invalidName? (table : String) (columns : List Column) (relationships : List Relationship) : Option String :=
  (table :: columns.map (·.name) ++ relationships.map (·.name)).find? fun name => !Identifier.isValid name

def columnRefs (quote : String → String) (table : String) (columns : List Column) : List ColumnRef :=
  columns.map fun column => ⟨column, quote table ++ "." ++ quote column.name⟩

/-- The vocabulary of an entity whose table, columns and relationships are known. -/
def ofParts (registry : Registry) (quote : String → String) (entity table : String) (columns : List Column)
    (relationships : List Relationship) : Except ConfigurationError Vocabulary :=
  match invalidName? table columns relationships with
  | some name => .error (.invalidIdentifier entity name)
  | none => do
    let columns := columnRefs quote table columns
    let keys := columns.flatMap (keysOf registry.kinds)
    let names ← keys.foldlM (addNames entity) []
    match relationships.find? fun relationship => (names.lookup relationship.name).isSome with
    | some relationship => .error (.relationshipClash entity relationship.name)
    | none =>
      match overlap? registry columns names with
      | some (name, key, other) => .error (.ambiguousName entity name key.name other.partsText)
      | none => .ok { entity, columns, relationships, keys, names, registry }

def build (registry : Registry) (source : SchemaSource) (entity : String) : Except ConfigurationError Vocabulary :=
  match source.tableName entity, source.columns entity with
  | some table, some columns =>
    ofParts registry source.quote entity table columns ((source.relationships entity).getD [])
  | _, _ => .error (.unknownEntity entity)

end Vocabulary

end SearchFilter
