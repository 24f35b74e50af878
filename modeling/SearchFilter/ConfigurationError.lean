/-!
# Errors of configuration

What can be wrong with a set of conditions, a schema or a policy. Each is found while a registry or a catalog is built, and none is built then.
-/

namespace SearchFilter

inductive ConfigurationError where
  /-- Two kinds of condition have one name. -/
  | duplicateKind (name : String)
  /-- Two kinds for a common type answer to one suffix. -/
  | ambiguousAlias (suffix first second : String)
  /-- Two modifiers answer to one name, or one answers to it twice. -/
  | duplicateModifier (name : String)
  /-- A modifier answers to the suffix of a kind. -/
  | modifierShadowsKind (name : String)
  /-- Two conditions of one entity answer to one name. -/
  | ambiguousName (entity name first second : String)
  /-- A relationship has the name of a condition. -/
  | relationshipClash (entity name : String)
  /-- A table, column or relationship has a name that is not valid in a statement. -/
  | invalidIdentifier (entity name : String)
  | duplicateEntity (entity : String)
  | unknownEntity (entity : String)
  /-- A relationship leads to an entity that the schema does not have. -/
  | unknownRelatedEntity (entity relationship target : String)
  /-- A list of a policy has a name that the entity does not know. -/
  | unknownProtectedName (entity name : String)
  /-- A schema file is not valid. -/
  | invalidSchemaFile
deriving DecidableEq, Repr

namespace ConfigurationError

def message : ConfigurationError → String
  | duplicateKind name => "condition kind `" ++ name ++ "` is registered twice"
  | ambiguousAlias suffix first second =>
    "suffix `" ++ suffix ++ "` is claimed by both `" ++ first ++ "` and `" ++ second ++ "`"
  | duplicateModifier name => "modifier name `" ++ name ++ "` is registered twice"
  | modifierShadowsKind name => "modifier `" ++ name ++ "` shadows a condition kind of the same name"
  | ambiguousName entity name first second =>
    "`" ++ entity ++ "` condition name `" ++ name ++ "` is produced by both `" ++ first ++ "` and `" ++ second ++ "`"
  | relationshipClash entity name =>
    "`" ++ entity ++ "` relationship `" ++ name ++ "` clashes with a condition of the same name"
  | invalidIdentifier entity name => "`" ++ entity ++ "` has invalid identifier `" ++ name ++ "`"
  | duplicateEntity entity => "entity `" ++ entity ++ "` is defined twice"
  | unknownEntity entity => "unknown entity `" ++ entity ++ "`"
  | unknownRelatedEntity entity relationship target =>
    "`" ++ entity ++ "." ++ relationship ++ "` points to unknown entity `" ++ target ++ "`"
  | unknownProtectedName entity name =>
    "`" ++ entity ++ "` protection list names unknown condition `" ++ name ++ "`"
  | invalidSchemaFile => "invalid schema file"

end ConfigurationError

end SearchFilter
