import SearchFilter.Registry
/-!
# Tables of a registry

A registry finds the kinds that have a suffix, and the modifier that has a token, without going through all of them. Its tables are filled as kinds and modifiers are registered, and they hold positions in the lists. A suffix may belong to several kinds for different types, so it has a position for each of them, in the order of registration. A token belongs to one modifier.

With tables the same is refused and the same is found as without. Where names are resolved only the lists are used.
-/

namespace SearchFilter

/-! ### Kinds by suffix -/

structure Kind.Index where
  kinds : List Kind := []
  positions : List (String × List Nat) := []
deriving DecidableEq, Repr

namespace Kind.Index

/-- Puts a position behind those that the suffix has. -/
def enter (position : Nat) (suffix : String) : List (String × List Nat) → List (String × List Nat)
  | [] => [(suffix, [position])]
  | (other, positions) :: rest =>
    if other = suffix then (other, positions ++ [position]) :: rest
    else (other, positions) :: enter position suffix rest

/-- The kinds that were entered for a suffix. A kind that names a suffix twice was entered twice. -/
def claimants (index : Index) (suffix : String) : List Kind :=
  ((index.positions.lookup suffix).getD []).filterMap fun position => index.kinds[position]?

/-- The first suffix of the kind that is entered for a kind with a type in common. -/
def conflict? (index : Index) (kind : Kind) : Option (String × Kind) :=
  kind.suffixes.findSome? fun suffix =>
    ((index.claimants suffix).find? fun other => other.overlaps kind).map fun other => (suffix, other)

def register (index : Index) (kind : Kind) : Except ConfigurationError Index :=
  if index.kinds.any fun other => other.name == kind.name then .error (.duplicateKind kind.name)
  else
    match index.conflict? kind with
    | some (suffix, other) => .error (.ambiguousAlias suffix other.name kind.name)
    | none => .ok
      { kinds := index.kinds ++ [kind]
        positions := kind.suffixes.foldl (fun positions suffix => enter index.kinds.length suffix positions)
          index.positions }

/-- The first kind that was entered for the suffix and applies to the type. -/
def resolveSuffix? (index : Index) (suffix : String) (type : SemanticType) : Option Kind :=
  (index.claimants suffix).find? fun kind => kind.appliesTo type

def claimsSuffix (index : Index) (suffix : String) : Bool := (index.positions.lookup suffix).isSome

end Kind.Index

/-! ### Modifiers by token -/

structure Modifier.Index where
  modifiers : List Modifier := []
  positions : List (String × Nat) := []
deriving DecidableEq, Repr

namespace Modifier.Index

def tokens (index : Index) : List String := index.positions.map (·.1)

def register (index : Index) (modifier : Modifier) : Except ConfigurationError Index :=
  match repeatedToken? index.tokens modifier.tokens with
  | some token => .error (.duplicateModifier token)
  | none => .ok
    { modifiers := index.modifiers ++ [modifier]
      positions := index.positions ++ modifier.tokens.map fun token => (token, index.modifiers.length) }

def resolve? (index : Index) (token : String) : Option Modifier :=
  (index.positions.lookup token).bind fun position => index.modifiers[position]?

end Modifier.Index

/-! ### Registries -/

structure Registry.Index where
  kinds : Kind.Index
  modifiers : Modifier.Index
deriving DecidableEq, Repr

namespace Registry.Index

/-- The lists without their tables. -/
def registry (index : Index) : Registry := ⟨index.kinds.kinds, index.modifiers.modifiers⟩

def build (kinds : List Kind) (modifiers : List Modifier) : Except ConfigurationError Index := do
  let kinds ← kinds.foldlM Kind.Index.register {}
  let modifiers ← modifiers.foldlM Modifier.Index.register {}
  match (Text.sort modifiers.tokens).find? kinds.claimsSuffix with
  | some token => .error (.modifierShadowsKind token)
  | none => .ok { kinds, modifiers }

end Registry.Index

end SearchFilter
