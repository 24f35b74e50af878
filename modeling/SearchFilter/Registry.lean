import SearchFilter.ConfigurationError
import SearchFilter.Kind.Standard
import SearchFilter.Modifier
import SearchFilter.Text.Order
/-!
# Registries

A registry holds the kinds and modifiers that condition names may use. It is built only if no name can be read in two ways: kinds for a common type share no suffix, modifiers share no token, and no token of a modifier is a suffix of a kind. Both are kept in the order in which they were registered, which is the order in which they are tried.
-/

namespace SearchFilter

/-! ### Kinds -/

namespace Kind

/-- The first of the earlier kinds that answers to the suffix and has a type in common with the kind. -/
def rival? (earlier : List Kind) (kind : Kind) (suffix : String) : Option Kind :=
  earlier.find? fun other => other.suffixes.contains suffix && other.overlaps kind

/-- The first suffix of the kind that an earlier kind claims, too. -/
def conflict? (earlier : List Kind) (kind : Kind) : List String → Option (String × Kind)
  | [] => none
  | suffix :: rest =>
    match rival? earlier kind suffix with
    | some other => some (suffix, other)
    | none => conflict? earlier kind rest

def register (earlier : List Kind) (kind : Kind) : Except ConfigurationError (List Kind) :=
  if earlier.any fun other => other.name == kind.name then .error (.duplicateKind kind.name)
  else
    match conflict? earlier kind kind.suffixes with
    | some (suffix, other) => .error (.ambiguousAlias suffix other.name kind.name)
    | none => .ok (earlier ++ [kind])

def find? (kinds : List Kind) (name : String) : Option Kind := kinds.find? fun kind => kind.name == name

/-- The first kind that applies to the column and answers to the name for it. -/
def resolve? (kinds : List Kind) (column : Column) (name : String) : Option Kind :=
  kinds.find? fun kind => kind.appliesTo column.type && (kind.namesFor column).contains name

/-- The first kind that applies to the type and answers to the suffix alone. -/
def resolveSuffix? (kinds : List Kind) (suffix : String) (type : SemanticType) : Option Kind :=
  kinds.find? fun kind => kind.suffixes.contains suffix && kind.appliesTo type

def claimsSuffix (kinds : List Kind) (suffix : String) : Bool :=
  kinds.any fun kind => kind.suffixes.contains suffix

end Kind

/-! ### Modifiers -/

namespace Modifier

/-- The first token that an earlier modifier has or that stands before it among the tokens. -/
def repeatedToken? (taken : List String) : List String → Option String
  | [] => none
  | token :: rest => if taken.contains token then some token else repeatedToken? (token :: taken) rest

def register (earlier : List Modifier) (modifier : Modifier) : Except ConfigurationError (List Modifier) :=
  match repeatedToken? (earlier.flatMap tokens) modifier.tokens with
  | some token => .error (.duplicateModifier token)
  | none => .ok (earlier ++ [modifier])

def resolve? (modifiers : List Modifier) (token : String) : Option Modifier :=
  modifiers.find? fun modifier => modifier.tokens.contains token

/-- All tokens in the order of their code points. -/
def sortedTokens (modifiers : List Modifier) : List String := Text.sort (modifiers.flatMap tokens)

end Modifier

/-! ### Registries -/

structure Registry where
  kinds : List Kind
  modifiers : List Modifier
deriving DecidableEq, Repr

namespace Registry

def build (kinds : List Kind) (modifiers : List Modifier) : Except ConfigurationError Registry := do
  let kinds ← kinds.foldlM Kind.register []
  let modifiers ← modifiers.foldlM Modifier.register []
  match (Modifier.sortedTokens modifiers).find? (Kind.claimsSuffix kinds) with
  | some token => .error (.modifierShadowsKind token)
  | none => .ok { kinds, modifiers }

def standard : Registry := ⟨Kind.standard, Modifier.standard⟩

end Registry

end SearchFilter
