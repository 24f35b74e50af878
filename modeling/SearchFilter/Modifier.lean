import SearchFilter.SemanticType
import SearchFilter.Value
import SearchFilter.Text.Blank
import SearchFilter.Text.LetterCase
/-!
# Modifiers

A modifier stands in a condition name between the column and the suffix of the kind. It wraps the column into an expression, may change the type that the kind sees, and may change the texts of the value so that both sides of the comparison are treated alike.
-/

namespace SearchFilter

inductive TextChange where
  | lowercase
  | uppercase
  | trim
  | trimStart
  | trimEnd
deriving DecidableEq, Repr

def TextChange.apply : TextChange → String → String
  | lowercase => Text.lowercase
  | uppercase => Text.uppercase
  | trim => Text.trim
  | trimStart => Text.trimStart
  | trimEnd => Text.trimEnd

inductive Wrapper where
  /-- The only argument of a function. -/
  | call (function : String)
  /-- A part of a point in time. -/
  | extract (part : String)
  /-- The column stays as it is. -/
  | unchanged
deriving DecidableEq, Repr

/-- The expression around a column, where there is one. -/
def Wrapper.expression? (column : String) : Wrapper → Option String
  | call function => some (function ++ "(" ++ column ++ ")")
  | extract part => some ("EXTRACT(" ++ part ++ " FROM " ++ column ++ ")")
  | unchanged => none

structure Modifier where
  name : String
  aliases : List String := []
  inputs : List SemanticType
  /-- The type of the result. It is the type of the input where none is given. -/
  output : Option SemanticType := none
  /-- Types of the input for which the result has a type of its own. -/
  outputs : List (SemanticType × SemanticType) := []
  wrapper : Wrapper
  textChange : Option TextChange := none
deriving DecidableEq, Repr

namespace Modifier

/-- Everything that the modifier answers to, its name first. -/
def tokens (modifier : Modifier) : List String := modifier.name :: modifier.aliases

def appliesTo (modifier : Modifier) (type : SemanticType) : Bool := modifier.inputs.contains type

def returnType (modifier : Modifier) (type : SemanticType) : SemanticType :=
  (modifier.outputs.lookup type).getD (modifier.output.getD type)

def transform (modifier : Modifier) (v : Value) : Value :=
  match modifier.textChange with
  | some change => v.mapText change.apply
  | none => v

def wrap (modifier : Modifier) (column : String) : String := (modifier.wrapper.expression? column).getD column

def textFunction (name : String) (aliases : List String) (function : String)
    (textChange : Option TextChange := none) (output : Option SemanticType := none) : Modifier where
  name
  aliases
  inputs := [.text]
  output
  wrapper := .call function
  textChange

def numberFunction (name : String) (aliases : List String) (function : String)
    (output : Option SemanticType := none) : Modifier where
  name
  aliases
  inputs := SemanticType.numeric
  output
  wrapper := .call function

/-- A part of a point in time, which is a whole number. -/
def datePart (name : String) (aliases : List String) (part : String) : Modifier where
  name
  aliases
  inputs := [.temporal]
  output := some .integer
  wrapper := .extract part

def standard : List Modifier :=
  [textFunction "lower" ["downcase"] "LOWER" (some .lowercase),
    textFunction "upper" ["upcase"] "UPPER" (some .uppercase),
    textFunction "trim" ["strip"] "TRIM" (some .trim),
    textFunction "ltrim" ["lstrip"] "LTRIM" (some .trimStart),
    textFunction "rtrim" ["rstrip"] "RTRIM" (some .trimEnd),
    textFunction "char_length" ["length"] "CHAR_LENGTH" none (some .integer),
    numberFunction "absolute" ["abs"] "ABS",
    numberFunction "ceil" ["ceiling"] "CEIL",
    numberFunction "floor" [] "FLOOR",
    numberFunction "round" [] "ROUND",
    datePart "year" [] "YEAR",
    datePart "month" [] "MONTH",
    datePart "day_of_month" ["dom"] "DAY",
    datePart "hour" [] "HOUR",
    datePart "minute" [] "MINUTE",
    datePart "second" [] "SECOND"]

end Modifier

end SearchFilter
