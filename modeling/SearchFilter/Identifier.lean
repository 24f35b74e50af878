import SearchFilter.Numeric.Numeral
/-!
# Identifiers of the database

The rule for names that may stand in a statement, how a name is quoted, and the table name of an entity that does not give one. The rules are stated on lists of characters; the functions on texts apply them.
-/

namespace SearchFilter

namespace Identifier

/-! ### Valid names -/

/-- A letter or an underscore may stand at the front. -/
def isFirst (c : Char) : Bool := c.isAlpha || c == '_'

def isInner (c : Char) : Bool := isFirst c || c.isDigit

/-- The longest valid name, in bytes. Valid names have one byte for each character. -/
def maxLength : Nat := 63

def isValidChars (s : List Char) : Bool :=
  match s with
  | [] => false
  | c :: rest => isFirst c && rest.all isInner && s.length ≤ maxLength

/-- A letter or an underscore, then letters, digits and underscores, 63 characters at most. -/
def isValid (s : String) : Bool := isValidChars s.toList

/-! ### Quoting -/

/-- Every occurrence of the quote twice. -/
def doubled (quote : Char) : List Char → List Char
  | [] => []
  | c :: rest => if c = quote then quote :: quote :: doubled quote rest else c :: doubled quote rest

/-- The name between double quotes, with each double quote inside it written twice. -/
def quote (s : String) : String := String.ofList ('"' :: doubled '"' s.toList ++ ['"'])

/-! ### Table names -/

/-- Capital letters in lower case, each with an underscore in front unless one stands there already. `before` is the last character written, if any. -/
def snakeCase (before : Option Char) : List Char → List Char
  | [] => []
  | c :: rest =>
    if c.isUpper then
      let letter := c.toLower
      match before with
      | some d => if d = '_' then letter :: snakeCase (some letter) rest else '_' :: letter :: snakeCase (some letter) rest
      | none => letter :: snakeCase (some letter) rest
    else c :: snakeCase (some c) rest

def isVowel (c : Char) : Bool := c ∈ ['a', 'e', 'i', 'o', 'u']

/-- The plural of a name that is given from its end to its front, in the same direction. -/
def pluralReversed : List Char → List Char
  | [] => ['s']
  | 'y' :: stem =>
    match stem with
    | [] => ['s', 'e', 'i']
    | c :: _ => if isVowel c then 's' :: 'y' :: stem else 's' :: 'e' :: 'i' :: stem
  | 's' :: stem => 's' :: 'e' :: 's' :: stem
  | 'x' :: stem => 's' :: 'e' :: 'x' :: stem
  | 'h' :: 'c' :: stem => 's' :: 'e' :: 'h' :: 'c' :: stem
  | 'h' :: 's' :: stem => 's' :: 'e' :: 'h' :: 's' :: stem
  | s => 's' :: s

/-- The table of an entity that names none: its name with words in lower case between underscores, in the plural. -/
def defaultTable (entity : String) : String :=
  String.ofList (pluralReversed (snakeCase none entity.toList).reverse).reverse

end Identifier

end SearchFilter
