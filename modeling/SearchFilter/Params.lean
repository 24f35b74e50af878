import SearchFilter.Value
import SearchFilter.Json.Reading
/-!
# Parameters

Input in bulk: a single value, or an ordered mapping from names to further parameters. A name is that of a condition or of a relationship, and a text in the place of a mapping is a raw scope.

Parameters are read from JSON. Objects become mappings in the order of their keys. Inside arrays there are only values, so an object there is refused, and so is a whole number beyond 64 signed bits.
-/

namespace SearchFilter

inductive Params where
  | value (v : Value)
  | mapping (pairs : List (String × Params))
deriving Inhabited

inductive ParamsError where
  | invalidJson
  | objectInArray
  | numberOutOfRange (n : UInt64)
deriving DecidableEq, Repr

def ParamsError.message : ParamsError → String
  | invalidJson => "invalid JSON syntax or encoding"
  | objectInArray => "objects are not allowed inside arrays"
  | numberOutOfRange n => "number " ++ Numeral.integerText n.toNat ++ " is out of range"

namespace Params

def isEmpty : Params → Bool
  | value v => v.isNull
  | mapping pairs => pairs.isEmpty

/-- What a key of a mapping leads to. Of several pairs with the key the last counts. -/
def get? (key : String) : Params → Option Params
  | value _ => none
  | mapping pairs => pairs.reverse.lookup key

/-! ### Reading JSON -/

def ofNumber : Json.Number → Except ParamsError Value
  | .unsigned n =>
    if n.toNat < Nat.pow 2 63 then .ok (.integer (Int64.ofInt n.toNat)) else .error (.numberOutOfRange n)
  | .signed i => .ok (.integer i)
  | .float x => .ok (.float x)

mutual

/-- The value of a document that has no objects in it. -/
def valueOfJson : Json → Except ParamsError Value
  | .null => .ok .null
  | .bool b => .ok (.bool b)
  | .number n => ofNumber n
  | .string s => .ok (.string s)
  | .array items => (valuesOfJson items).map .array
  | .object _ => .error .objectInArray

/-- The values of all items. The first that has none gives the error. -/
def valuesOfJson : List Json → Except ParamsError (List Value)
  | [] => .ok []
  | item :: items => do
    let v ← valueOfJson item
    return v :: (← valuesOfJson items)

end

mutual

def ofJson : Json → Except ParamsError Params
  | .object members => (pairsOfJson members).map mapping
  | document => (valueOfJson document).map value

def pairsOfJson : List (String × Json) → Except ParamsError (List (String × Params))
  | [] => .ok []
  | (key, document) :: members => do
    let params ← ofJson document
    return (key, params) :: (← pairsOfJson members)

end

def ofText (text : String) : Except ParamsError Params :=
  match Json.ofText? text with
  | some document => ofJson document
  | none => .error .invalidJson

def ofBytes (bytes : ByteArray) : Except ParamsError Params :=
  match String.fromUTF8? bytes with
  | some text => ofText text
  | none => .error .invalidJson

end Params

end SearchFilter
