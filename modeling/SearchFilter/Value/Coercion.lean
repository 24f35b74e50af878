import SearchFilter.Value
import SearchFilter.SemanticType
import SearchFilter.Text.Blank
import SearchFilter.Text.LetterCase
/-!
# Coercion

A value is brought into the form of a semantic type before it is stored. Texts are accepted for every type, because input in bulk usually arrives as text. What does not fit is refused with a reason and never replaced by null.

How texts are read as points in time is a parameter, because a schema may bring its own rule.
-/

namespace SearchFilter

inductive CoercionError where
  | mismatch (expected : SemanticType) (found : String)
  | notInteger (text : String)
  | notNumber (text : String)
  | notBoolean (text : String)
  | notTemporal (text : String)
  | timestampRange
  | timestampText (error : Timestamp.TextError)
  | nestedArray
  | noKeywords
  | boundCount (count : Nat)
  | notBounds (found : String)
deriving DecidableEq, Repr

def CoercionError.message : CoercionError → String
  | mismatch expected found => "expected " ++ expected.name ++ ", got " ++ found
  | notInteger text => "`" ++ text ++ "` is not an integer"
  | notNumber text => "`" ++ text ++ "` is not a number"
  | notBoolean text => "`" ++ text ++ "` is not a boolean"
  | notTemporal text => "`" ++ text ++ "` is not a recognised date or time"
  | timestampRange => "timestamp was not in range"
  | timestampText error => error.message
  | nestedArray => "nested arrays are not allowed"
  | noKeywords => "no searchable keywords"
  | boundCount count => "expected 2 bounds, got " ++ Numeral.integerText count
  | notBounds found => "expected 2 bounds, got " ++ found

namespace Value

/-! ### The scalar types -/

def mismatch (expected : SemanticType) (v : Value) : Except CoercionError Value :=
  .error (.mismatch expected v.form)

/-- Numbers, flags and points in time become texts. -/
def toText : Value → Except CoercionError Value
  | string s => .ok (string s)
  | integer i => .ok (string (integerText i))
  | float x => .ok (string (x.render .text))
  | bool b => .ok (string (boolText b))
  | timestamp t =>
    match t.text? with
    | .ok s => .ok (string s)
    | .error e => .error (.timestampText e)
  | v => mismatch .text v

/-- The whole number that a floating point number is. The bound 2 ^ 63, which is one too large for 64 signed bits, is taken as the greatest number that fits. -/
def integerOfFloat? (x : Binary64) : Option Int64 :=
  match x.integer? with
  | some i =>
    if Numeral.minInt64 ≤ i ∧ i ≤ Numeral.maxInt64 + 1 then some (Int64.ofInt (min i Numeral.maxInt64))
    else none
  | none => none

def toInteger : Value → Except CoercionError Value
  | integer i => .ok (integer i)
  | float x =>
    match integerOfFloat? x with
    | some i => .ok (integer i)
    | none => mismatch .integer (float x)
  | string s =>
    match Numeral.int64? (Text.trim s).toList with
    | some i => .ok (integer i)
    | none => .error (.notInteger s)
  | v => mismatch .integer v

def finiteNumber? (s : String) : Option Binary64 :=
  match Numeral.binary64? (Text.trim s).toList with
  | some x => if x.isFinite then some x else none
  | none => none

def toFloat : Value → Except CoercionError Value
  | float x => .ok (float x)
  | integer i => .ok (float (.ofInt i.toInt))
  | string s =>
    match finiteNumber? s with
    | some x => .ok (float x)
    | none => .error (.notNumber s)
  | v => mismatch .float v

/-- The texts of flags, in any case of their letters. -/
def flagTexts : List (String × Bool) :=
  [("true", true), ("t", true), ("1", true), ("yes", true),
    ("false", false), ("f", false), ("0", false), ("no", false)]

def flagOfText? (s : String) : Option Bool := flagTexts.lookup (Text.trim s).toLower

def toBoolean : Value → Except CoercionError Value
  | bool b => .ok (bool b)
  | integer i =>
    if i = 0 then .ok (bool false) else if i = 1 then .ok (bool true) else mismatch .boolean (integer i)
  | string s =>
    match flagOfText? s with
    | some b => .ok (bool b)
    | none => .error (.notBoolean s)
  | v => mismatch .boolean v

/-- Whole numbers are seconds since 1970. -/
def toTemporal (parseTemporal : String → Option Timestamp) : Value → Except CoercionError Value
  | timestamp t => .ok (timestamp t)
  | integer i =>
    match Timestamp.ofUnixSeconds? i.toInt with
    | some t => .ok (timestamp t)
    | none => .error .timestampRange
  | string s =>
    match parseTemporal (Text.trim s) with
    | some t => .ok (timestamp t)
    | none => .error (.notTemporal s)
  | v => mismatch .temporal v

def toBinary : Value → Except CoercionError Value
  | string s => .ok (string s)
  | v => mismatch .binary v

/-- Coerces a value to one of the types. Nulls and lists fit none of them. -/
def coerceScalar (parseTemporal : String → Option Timestamp) : SemanticType → Value → Except CoercionError Value
  | .text, v => toText v
  | .integer, v => toInteger v
  | .float, v => toFloat v
  | .boolean, v => toBoolean v
  | .temporal, v => toTemporal parseTemporal v
  | .binary, v => toBinary v

/-! ### Flags and sets -/

/-- Coerces the flag of a condition that is switched on or off. -/
def coerceFlag (v : Value) : Except CoercionError Value :=
  match v with
  | null | float _ | timestamp _ | array _ => .error (.mismatch .boolean v.form)
  | bool _ => .ok v
  | integer i =>
    if i = 1 then .ok (bool true)
    else if i = 0 then .ok (bool false)
    else .error (.mismatch .boolean v.form)
  | string s => ((flagOfText? s).map fun b => .ok (bool b)).getD (.error (.notBoolean s))

def coerceItem (parseTemporal : String → Option Timestamp) (type : SemanticType) :
    Value → Except CoercionError Value
  | array _ => .error .nestedArray
  | v => coerceScalar parseTemporal type v

/-- Coerces every item in order. The first that does not fit gives the reason. -/
def coerceItems (parseTemporal : String → Option Timestamp) (type : SemanticType) :
    List Value → Except CoercionError (List Value)
  | [] => .ok []
  | item :: items => do
    let item ← coerceItem parseTemporal type item
    return item :: (← coerceItems parseTemporal type items)

/-- Coerces a set. A value that is no list is the only item of its set. -/
def coerceSet (parseTemporal : String → Option Timestamp) (type : SemanticType) (v : Value) :
    Except CoercionError Value :=
  let items := match v with
    | array items => items
    | v => [v]
  (coerceItems parseTemporal type items).map array

end Value

end SearchFilter
