import SearchFilter.Value
/-!
# Fragments

A fragment is a piece of a statement: a template with a question mark for every bound value, and the values in the order of their question marks. Fragments are joined left to right, so the order is kept.
-/

namespace SearchFilter

structure Fragment where
  template : String
  binds : List Value

namespace Fragment

def empty : Fragment := ⟨"", []⟩

/-- Nothing to filter on. -/
def isEmpty (f : Fragment) : Bool := f.template.isEmpty

def parenthesized (f : Fragment) : Fragment := ⟨"(" ++ f.template ++ ")", f.binds⟩

/-- All of the fragments at once. -/
def conjunction (clauses : List Fragment) : Fragment :=
  ⟨" AND ".intercalate (clauses.map template), clauses.flatMap binds⟩

end Fragment

end SearchFilter
