import SearchFilter.Schema
/-!
# Kinds of conditions

A kind of condition is a comparison with a name: the types it applies to, the suffixes it answers to, and the operation that it stands for. A condition of a column is named by the column, an underscore and a suffix of the kind.

Two rules add names. The kind for plain equality answers to the bare column. Before and after answer to `created_before` and `created_after` where the column is a point in time called `created_at`.
-/

namespace SearchFilter

/-- What a condition does to a column and a value. -/
inductive Operation where
  /-- The column stands left of an operator and the value right of it. -/
  | compare (operator : String)
  /-- A text pattern made of the value with wildcards before or after it. -/
  | pattern (negated : Bool) (before after : String)
  /-- The column is null, or is not, depending on a flag. -/
  | nullCheck (negated : Bool)
  /-- The column is one of the items of a set. -/
  | membership (negated : Bool)
  /-- Every keyword of a text occurs in the column. -/
  | keywords
  /-- The column lies between two bounds or at one of them. -/
  | between
deriving DecidableEq, Repr

structure Kind where
  name : String
  aliases : List String := []
  types : List SemanticType
  operation : Operation
  /-- The kind answers to the column alone. -/
  bare : Bool := false
  /-- What replaces the ending `at` of a column that is a point in time. -/
  temporalAlias : Option String := none
deriving DecidableEq, Repr

namespace Kind

def appliesTo (kind : Kind) (type : SemanticType) : Bool := kind.types.contains type

/-- Everything that the kind answers to behind an underscore, its name first. -/
def suffixes (kind : Kind) : List String := kind.name :: kind.aliases

/-- The name of a condition on a column, or on a column with modifiers. -/
def canonicalName (kind : Kind) (column : String) : String := column ++ "_" ++ kind.name

/-- What stands before the ending `_at`, if something does. -/
def temporalStem? (column : String) : Option String :=
  match List.isSuffixOf? ['_', 'a', 't'] column.toList with
  | some (c :: stem) => some (String.ofList (c :: stem))
  | _ => none

/-- The alias made by replacing the ending of a point in time. -/
def temporalName? (kind : Kind) (column : Column) : Option String :=
  match kind.temporalAlias with
  | none => none
  | some suffix =>
    if column.type = .temporal then (temporalStem? column.name).map fun stem => stem ++ "_" ++ suffix else none

/-- The other names of a condition on a column. -/
def aliasesFor (kind : Kind) (column : Column) : List String :=
  (if kind.bare then [column.name] else [])
    ++ kind.aliases.map (fun suffix => column.name ++ "_" ++ suffix)
    ++ (kind.temporalName? column).toList

/-- All names of a condition on a column, the canonical one first. -/
def namesFor (kind : Kind) (column : Column) : List String :=
  kind.canonicalName column.name :: kind.aliasesFor column

/-- There is a type that both kinds apply to. -/
def overlaps (first second : Kind) : Bool :=
  SemanticType.all.any fun type => first.appliesTo type && second.appliesTo type

end Kind

end SearchFilter
