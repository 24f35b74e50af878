import SearchFilter.Kind
import SearchFilter.Kind.Keywords
import SearchFilter.Value.Coercion
import SearchFilter.Fragment
/-!
# What operations do

Every operation accepts values of a certain shape and compiles them to a fragment over the text that stands for the column. The number of question marks is that of the bound values: none for null checks, one for a whole set, two for a range and one for each keyword.
-/

namespace SearchFilter

namespace Operation

/-- Brings a value into the shape that the operation takes for the type. -/
def coerce (parseTemporal : String → Option Timestamp) (type : SemanticType) (v : Value) :
    Operation → Except CoercionError Value
  | compare _ | pattern .. => v.coerceScalar parseTemporal type
  | nullCheck _ => v.coerceFlag
  | membership _ => v.coerceSet parseTemporal type
  | keywords =>
    match v.coerceScalar parseTemporal type with
    | .error e => .error e
    | .ok w => if (Keywords.tokens w.searchText).isEmpty then .error .noKeywords else .ok w
  | between =>
    match v with
    | .array [low, high] => (Value.array [low, high]).coerceSet parseTemporal type
    | .array bounds => .error (.boundCount bounds.length)
    | v => .error (.notBounds v.form)

def keywordClause (column word : String) : Fragment :=
  ⟨column ++ " LIKE ?", [.string ("%" ++ word ++ "%")]⟩

/-- Only the flag true asks for what the check is named after. -/
def asksForNull (negated : Bool) : Value → Bool
  | .bool true => !negated
  | _ => negated

/-- The values bound by a range. One value serves as both bounds. -/
def bounds : Value → List Value
  | .array items => items
  | v => [v, v]

def compile (column : String) (v : Value) : Operation → Fragment
  | compare operator => ⟨column ++ " " ++ operator ++ " ?", [v]⟩
  | pattern negated before after =>
    ⟨column ++ (if negated then " NOT LIKE ?" else " LIKE ?"), [.string (before ++ v.searchText ++ after)]⟩
  | nullCheck negated => ⟨column ++ (if asksForNull negated v then " IS NULL" else " IS NOT NULL"), []⟩
  | membership negated => ⟨column ++ (if negated then " NOT IN (?)" else " IN (?)"), [v]⟩
  | keywords => Fragment.conjunction ((Keywords.tokens v.searchText).map (keywordClause column))
  | between => ⟨column ++ " BETWEEN ? AND ?", bounds v⟩

end Operation

namespace Kind

def coerce (kind : Kind) (parseTemporal : String → Option Timestamp) (type : SemanticType) (v : Value) :
    Except CoercionError Value :=
  kind.operation.coerce parseTemporal type v

def compile (kind : Kind) (column : String) (v : Value) : Fragment := kind.operation.compile column v

end Kind

end SearchFilter
