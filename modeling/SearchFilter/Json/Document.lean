import SearchFilter.Numeric.Binary64
/-!
# JSON documents

Whole numbers keep apart from floating point ones, and whole numbers that are not negative range up to the largest of 64 unsigned bits. The members of an object stand in ascending order of their keys, each key once.
-/

namespace SearchFilter

namespace Json

/-- A number of a document. -/
inductive Number where
  | unsigned (n : UInt64)
  | signed (i : Int64)
  | float (x : Binary64)
deriving DecidableEq, Repr

end Json

/-- A JSON document. -/
inductive Json where
  | null
  | bool (b : Bool)
  | number (n : Json.Number)
  | string (s : String)
  | array (items : List Json)
  | object (members : List (String × Json))

namespace Json

/-- Adds a member in its place. A member with the same key is replaced. -/
def insertMember (key : String) (value : Json) : List (String × Json) → List (String × Json)
  | [] => [(key, value)]
  | (k, v) :: rest =>
    if key < k then (key, value) :: (k, v) :: rest
    else if key = k then (key, value) :: rest
    else (k, v) :: insertMember key value rest

/-- The object with the given members. Of members with one key the last counts. -/
def ofMembers (members : List (String × Json)) : Json :=
  .object (members.foldl (fun object member => insertMember member.1 member.2 object) [])

end Json

end SearchFilter
