/-!
# Semantic types

What a column holds, as far as searching is concerned. The type decides which conditions a column has and what is done to a value before it is compared.
-/

namespace SearchFilter

inductive SemanticType where
  | text
  | integer
  | float
  | boolean
  | temporal
  | binary
deriving DecidableEq, Repr

namespace SemanticType

def all : List SemanticType := [.text, .integer, .float, .boolean, .temporal, .binary]

theorem mem_all (type : SemanticType) : type ∈ all := by cases type <;> decide

/-- The types whose values can be compared by size. -/
def ordered : List SemanticType := [.integer, .float, .temporal]

def numeric : List SemanticType := [.integer, .float]

def name : SemanticType → String
  | text => "text"
  | integer => "integer"
  | float => "float"
  | boolean => "boolean"
  | temporal => "temporal"
  | binary => "binary"

def ofName? (s : String) : Option SemanticType := all.find? fun type => type.name == s

/-- Other names that schema files may use. -/
def synonyms : List (String × SemanticType) :=
  [("string", .text), ("datetime", .temporal), ("date", .temporal), ("timestamp", .temporal)]

/-- The type of a name in a schema file. -/
def ofSchemaName? (s : String) : Option SemanticType := ofName? s <|> synonyms.lookup s

end SemanticType

end SearchFilter
