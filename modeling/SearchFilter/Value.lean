import SearchFilter.Numeric.Notation
import SearchFilter.Numeric.Numeral
import SearchFilter.Time.Timestamp
/-!
# Values

The values that conditions are given and that a compiled filter binds. Lists serve the conditions on sets and ranges.
-/

namespace SearchFilter

inductive Value where
  | null
  | bool (b : Bool)
  | integer (i : Int64)
  | float (x : Binary64)
  | string (s : String)
  | timestamp (t : Timestamp)
  | array (items : List Value)
deriving Inhabited

namespace Value

/-- What a value is called in messages. -/
def form : Value → String
  | null => "null"
  | bool _ => "boolean"
  | integer _ => "integer"
  | float _ => "float"
  | string _ => "string"
  | timestamp _ => "timestamp"
  | array _ => "array"

def isNull : Value → Bool
  | null => true
  | _ => false

def boolText (b : Bool) : String := if b then "true" else "false"

def integerText (i : Int64) : String := Numeral.integerText i.toInt

/-- The text that patterns and keywords search for. -/
def searchText : Value → String
  | string s => s
  | integer i => integerText i
  | float x => x.render .text
  | bool b => boolText b
  | null | timestamp _ | array _ => ""

mutual

/-- Changes every text in a value, in lists at every depth. -/
def mapText (f : String → String) : Value → Value
  | string s => string (f s)
  | array items => array (mapTextItems f items)
  | v => v

def mapTextItems (f : String → String) : List Value → List Value
  | [] => []
  | item :: items => mapText f item :: mapTextItems f items

end

end Value

end SearchFilter
