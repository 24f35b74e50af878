/-!
# Policies

A policy says which names of an entity untrusted input may use. It has up to two lists of canonical condition names and relationship names. With one list the names are allowed or denied. With both, a name passes if it is allowed or not denied.
-/

namespace SearchFilter

structure Policy where
  accessible : Option (List String) := none
  denied : Option (List String) := none
deriving DecidableEq, Repr

namespace Policy

/-- No list is given. -/
def isOpen (policy : Policy) : Bool := policy.accessible.isNone && policy.denied.isNone

def permits (policy : Policy) (name : String) : Bool :=
  match policy.accessible, policy.denied with
  | none, none => true
  | some accessible, none => accessible.contains name
  | none, some denied => !denied.contains name
  | some accessible, some denied => accessible.contains name || !denied.contains name

end Policy

end SearchFilter
