import SearchFilter.Value.Coercion
/-!
# Errors of assignment

What can be wrong with a name or a value given to a tree of conditions. Names that a policy withholds from untrusted input are no errors.
-/

namespace SearchFilter

inductive InvalidReason where
  | coercion (error : CoercionError)
  /-- A raw scope binds no values, so it has no place for question marks. -/
  | placeholderInScope
  /-- Neither a mapping nor a scope stands where one is expected. -/
  | notScope (found : String)
  /-- A mapping stands where a value is expected. -/
  | mappingForValue
deriving DecidableEq, Repr

inductive ConditionError where
  /-- The entity has no such condition or relationship. -/
  | unknownCondition (entity name : String)
  /-- The value does not suit the condition, or the scope is not valid. -/
  | invalidValue (name : String) (reason : InvalidReason)
  /-- Untrusted input holds a raw scope. -/
  | injectionRisk (entity : String)
  | unknownEntity (entity : String)
deriving DecidableEq, Repr

def InvalidReason.message : InvalidReason → String
  | coercion error => error.message
  | placeholderInScope => "raw scopes cannot contain `?` placeholders"
  | notScope found => "expected a mapping or a scope, got " ++ found
  | mappingForValue => "expected a value, got a mapping"

def ConditionError.message : ConditionError → String
  | unknownCondition entity name => "unknown condition `" ++ name ++ "` for `" ++ entity ++ "`"
  | invalidValue name reason => "invalid value for `" ++ name ++ "`: " ++ reason.message
  | injectionRisk entity => "raw SQL scope rejected for protected `" ++ entity ++ "` conditions"
  | unknownEntity entity => "unknown entity `" ++ entity ++ "`"

end SearchFilter
