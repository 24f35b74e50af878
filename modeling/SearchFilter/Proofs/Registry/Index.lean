import Mathlib.Data.List.Basic
import SearchFilter.Proofs.Lookup
import SearchFilter.Proofs.Outcome
import SearchFilter.Registry.Index
/-!
# Tables agree with the lists

The tables of a registry are filled by any number of registrations, and after each of them they say what going through the lists says. For a suffix the table has the position of every kind that names it, as often as the kind names it and in the order of registration. For the tokens of the modifiers it has each token with the position of its modifier. Both are equations between the table and the list, so they are invariants of registration, and all look-ups follow from them.

Registration asks the tables for conflicts. Since they agree with the lists it refuses the same kinds and modifiers for the same reasons, and a registry with tables is built exactly where one without is.
-/

namespace SearchFilter

/-! ### Kinds by suffix -/

namespace Kind.Index

variable {index index' : Index} {kind : Kind} {suffix : String}

/-- The positions of the kinds that name the suffix, as often as they name it. -/
def entered (kinds : List Kind) (suffix : String) : List Nat :=
  kinds.zipIdx.flatMap fun (kind, position) => List.replicate (kind.suffixes.count suffix) position

/-- The table has the positions that belong to each suffix, and no suffix without a position. -/
structure Sound (index : Index) : Prop where
  positions : ∀ suffix, (index.positions.lookup suffix).getD [] = entered index.kinds suffix
  filled : ∀ suffix, index.positions.lookup suffix ≠ some []

theorem sound_empty : Sound {} where
  positions _ := rfl
  filled _ h := nomatch h

theorem lookup_enter (position : Nat) (suffix other : String)
    (positions : List (String × List Nat)) :
    (enter position suffix positions).lookup other =
      if other = suffix then some ((positions.lookup suffix).getD [] ++ [position])
      else positions.lookup other := by
  induction positions with
  | nil => rw [enter, lookup_cons_eq_ite, List.lookup_nil, List.lookup_nil, Option.getD_none,
      List.nil_append]
  | cons first rest ih =>
    obtain ⟨named, found⟩ := first
    rw [enter, lookup_cons_eq_ite, lookup_cons_eq_ite]
    by_cases hnamed : named = suffix
    · subst hnamed
      rw [if_pos rfl, if_pos rfl, Option.getD_some, lookup_cons_eq_ite]
      split
      · rfl
      · rfl
    · rw [if_neg hnamed, if_neg (Ne.symm hnamed), lookup_cons_eq_ite, ih]
      by_cases h : other = suffix
      · rw [if_pos h, if_pos h, if_neg (fun heq => hnamed (heq.symm.trans h))]
      · rw [if_neg h, if_neg h]

/-- Entering a position for several suffixes puts it behind the positions of each of them. -/
theorem lookup_foldl_enter (position : Nat) (suffixes : List String)
    (positions : List (String × List Nat)) (other : String) :
    ((suffixes.foldl (fun positions suffix => enter position suffix positions)
      positions).lookup other).getD [] =
        (positions.lookup other).getD [] ++ List.replicate (suffixes.count other) position := by
  induction suffixes generalizing positions with
  | nil => simp
  | cons suffix rest ih =>
    rw [List.foldl_cons, ih, lookup_enter]
    by_cases h : other = suffix
    · rw [if_pos h, h, List.count_cons_self, List.replicate_succ, Option.getD_some,
        List.append_assoc, List.singleton_append]
    · rw [if_neg h, List.count_cons_of_ne (Ne.symm h)]

theorem foldl_enter_ne_nil (position : Nat) (suffixes : List String)
    {positions : List (String × List Nat)} (h : ∀ other, positions.lookup other ≠ some [])
    (other : String) :
    (suffixes.foldl (fun positions suffix => enter position suffix positions)
      positions).lookup other ≠ some [] := by
  induction suffixes generalizing positions with
  | nil => exact h other
  | cons suffix rest ih =>
    refine ih fun other => ?_
    rw [lookup_enter]
    split
    · simp
    · exact h other

theorem entered_append_singleton (kinds : List Kind) (kind : Kind) (suffix : String) :
    entered (kinds ++ [kind]) suffix =
      entered kinds suffix ++ List.replicate (kind.suffixes.count suffix) kinds.length := by
  simp [entered, List.zipIdx_append]

/-! ### Looking up suffixes -/

theorem find?_flatMap_replicate (kinds : List Kind) (suffix : String) (fits : Kind → Bool) :
    (kinds.flatMap fun kind => List.replicate (kind.suffixes.count suffix) kind).find? fits =
      kinds.find? fun kind => kind.suffixes.contains suffix && fits kind := by
  induction kinds with
  | nil => rfl
  | cons kind rest ih =>
    rw [List.flatMap_cons, List.find?_append, ih, List.find?_cons]
    by_cases hsuffix : suffix ∈ kind.suffixes
    · cases hfits : fits kind <;> simp [hsuffix, hfits]
    · simp [hsuffix, List.count_eq_zero_of_not_mem hsuffix]

theorem Sound.claimants_eq (h : index.Sound) (suffix : String) :
    index.claimants suffix =
      index.kinds.flatMap fun kind => List.replicate (kind.suffixes.count suffix) kind := by
  have hkinds : ∀ pair ∈ index.kinds.zipIdx,
      (List.replicate (pair.1.suffixes.count suffix) pair.2).filterMap
        (fun position => index.kinds[position]?) =
          List.replicate (pair.1.suffixes.count suffix) pair.1 := by
    intro pair hpair
    have hget : index.kinds[pair.2]? = some pair.1 := List.mem_zipIdx_iff_getElem?.mp hpair
    simp [hget]
  rw [claimants, h.positions, entered, List.filterMap_flatMap]
  calc
    _ = index.kinds.zipIdx.flatMap fun pair =>
        List.replicate (pair.1.suffixes.count suffix) pair.1 :=
      List.flatMap_congr hkinds
    _ = (index.kinds.zipIdx.map Prod.fst).flatMap fun kind =>
        List.replicate (kind.suffixes.count suffix) kind := by
      rw [List.flatMap_map]
    _ = _ := by rw [List.zipIdx_map_fst]

theorem Sound.find?_claimants (h : index.Sound) (suffix : String) (fits : Kind → Bool) :
    (index.claimants suffix).find? fits =
      index.kinds.find? fun kind => kind.suffixes.contains suffix && fits kind := by
  rw [h.claimants_eq, find?_flatMap_replicate]

theorem Sound.resolveSuffix?_eq (h : index.Sound) (suffix : String) (type : SemanticType) :
    index.resolveSuffix? suffix type = Kind.resolveSuffix? index.kinds suffix type :=
  h.find?_claimants suffix _

theorem Sound.claimsSuffix_eq (h : index.Sound) (suffix : String) :
    index.claimsSuffix suffix = Kind.claimsSuffix index.kinds suffix := by
  have hnone : entered index.kinds suffix = [] ↔ ∀ kind ∈ index.kinds, suffix ∉ kind.suffixes := by
    conv_rhs => rw [← List.zipIdx_map_fst 0 index.kinds]
    simp only [entered, List.flatMap_eq_nil_iff, List.replicate_eq_nil_iff, List.count_eq_zero,
      List.forall_mem_map]
  have hsome : index.claimsSuffix suffix = true ↔ entered index.kinds suffix ≠ [] := by
    rw [claimsSuffix, ← h.positions suffix]
    have hfilled := h.filled suffix
    cases hlookup : index.positions.lookup suffix with
    | none => simp
    | some positions =>
      rw [hlookup] at hfilled
      simpa using hfilled
  rw [Bool.eq_iff_iff, hsome, ne_eq, hnone, Kind.claimsSuffix]
  simp

theorem Sound.conflict?_eq (h : index.Sound) (kind : Kind) :
    index.conflict? kind = Kind.conflict? index.kinds kind kind.suffixes := by
  have hrest : ∀ suffixes : List String, (suffixes.findSome? fun suffix =>
      ((index.claimants suffix).find? fun other => other.overlaps kind).map
        fun other => (suffix, other)) = Kind.conflict? index.kinds kind suffixes := by
    intro suffixes
    induction suffixes with
    | nil => rfl
    | cons suffix rest ih =>
      rw [List.findSome?_cons, Kind.conflict?, Kind.rival?, h.find?_claimants, ih]
      cases index.kinds.find? fun other => other.suffixes.contains suffix && other.overlaps kind <;>
        rfl
  exact hrest kind.suffixes

/-! ### Registering kinds -/

theorem Sound.register_kinds (h : index.Sound) (kind : Kind) :
    (index.register kind).map Index.kinds = Kind.register index.kinds kind := by
  rw [register, Kind.register, h.conflict?_eq]
  split
  · rfl
  · cases Kind.conflict? index.kinds kind kind.suffixes with
    | none => rfl
    | some conflict => rfl

theorem register_eq_ok (h : index.register kind = .ok index') :
    index' =
      { kinds := index.kinds ++ [kind]
        positions := kind.suffixes.foldl
          (fun positions suffix => enter index.kinds.length suffix positions) index.positions } := by
  unfold register at h
  split at h
  · cases h
  · split at h
    · cases h
    · cases h
      rfl

theorem Sound.register (h : index.Sound) (hregister : index.register kind = .ok index') :
    index'.Sound := by
  obtain rfl := register_eq_ok hregister
  constructor
  · intro suffix
    rw [lookup_foldl_enter, entered_append_singleton, h.positions]
  · exact foldl_enter_ne_nil _ _ h.filled

/-- The lists that come from registering kinds one after another do not depend on the tables. -/
theorem foldlM_register_kinds (kinds : List Kind) :
    (kinds.foldlM register {}).map Index.kinds = kinds.foldlM Kind.register [] :=
  Outcome.map_foldlM Sound (fun _ kind h => h.register_kinds kind) (fun _ _ _ h => h.register)
    kinds sound_empty

theorem sound_of_foldlM {kinds : List Kind} (h : kinds.foldlM register {} = .ok index) :
    index.Sound :=
  Outcome.foldlM_invariant (fun _ => Sound) (fun _ _ _ _ h => h.register) sound_empty h

end Kind.Index

/-! ### Modifiers by token -/

namespace Modifier.Index

variable {index index' : Index} {modifier : Modifier}

/-- The table has the tokens of the modifiers, and a token leads to the modifier that the list gives. -/
structure Sound (index : Index) : Prop where
  tokens_eq : index.tokens = index.modifiers.flatMap Modifier.tokens
  inside : ∀ token position, index.positions.lookup token = some position →
    position < index.modifiers.length
  resolve?_eq : ∀ token, index.resolve? token = Modifier.resolve? index.modifiers token

theorem sound_empty : Sound {} where
  tokens_eq := rfl
  inside _ _ h := nomatch h
  resolve?_eq _ := rfl

theorem Sound.register_modifiers (h : index.Sound) (modifier : Modifier) :
    (index.register modifier).map Index.modifiers =
      Modifier.register index.modifiers modifier := by
  rw [register, Modifier.register, h.tokens_eq]
  cases repeatedToken? (index.modifiers.flatMap Modifier.tokens) modifier.tokens with
  | none => rfl
  | some token => rfl

theorem register_eq_ok (h : index.register modifier = .ok index') :
    index' =
      { modifiers := index.modifiers ++ [modifier]
        positions := index.positions ++
          modifier.tokens.map fun token => (token, index.modifiers.length) } := by
  unfold register at h
  split at h
  · cases h
  · cases h
    rfl

theorem Sound.register (h : index.Sound) (hregister : index.register modifier = .ok index') :
    index'.Sound := by
  obtain rfl := register_eq_ok hregister
  constructor
  · have htokens : index.positions.map (·.1) = index.modifiers.flatMap Modifier.tokens :=
      h.tokens_eq
    simp [tokens, htokens, Function.comp_def]
  · intro token position hlookup
    rw [lookup_append_names, Option.or_eq_some_iff] at hlookup
    rw [List.length_append, List.length_singleton]
    rcases hlookup with hold | ⟨_, hnew⟩
    · exact Nat.lt_succ_of_lt (h.inside token position hold)
    · obtain ⟨_, hposition⟩ := Option.ite_none_right_eq_some.mp hnew
      cases hposition
      exact Nat.lt_succ_self _
  · intro token
    have hold := h.resolve?_eq token
    rw [resolve?, Modifier.resolve?] at hold
    rw [resolve?, Modifier.resolve?, lookup_append_names, List.find?_append, ← hold]
    cases hlookup : index.positions.lookup token with
    | some position =>
      -- the position is one of the list before, and what stands there stays
      have hinside := h.inside token position hlookup
      simp [List.getElem?_append_left hinside, List.getElem?_eq_getElem hinside]
    | none =>
      by_cases hmem : token ∈ modifier.tokens
      · simp [hmem]
      · simp [hmem]

theorem foldlM_register_modifiers (modifiers : List Modifier) :
    (modifiers.foldlM register {}).map Index.modifiers =
      modifiers.foldlM Modifier.register [] :=
  Outcome.map_foldlM Sound (fun _ modifier h => h.register_modifiers modifier)
    (fun _ _ _ h => h.register) modifiers sound_empty

theorem sound_of_foldlM {modifiers : List Modifier}
    (h : modifiers.foldlM register {} = .ok index) : index.Sound :=
  Outcome.foldlM_invariant (fun _ => Sound) (fun _ _ _ _ h => h.register) sound_empty h

end Modifier.Index

/-! ### Registries -/

namespace Registry.Index

variable {index : Index} {kinds : List Kind} {modifiers : List Modifier}

/-- A registry is built with tables exactly where it is built without, and else for the same reason not. -/
theorem build_registry (kinds : List Kind) (modifiers : List Modifier) :
    (build kinds modifiers).map registry = Registry.build kinds modifiers := by
  rw [build, Registry.build, ← Kind.Index.foldlM_register_kinds,
    ← Modifier.Index.foldlM_register_modifiers]
  cases hkinds : kinds.foldlM Kind.Index.register {} with
  | error e => rfl
  | ok kindIndex =>
    have hsound := Kind.Index.sound_of_foldlM hkinds
    cases hmodifiers : modifiers.foldlM Modifier.Index.register {} with
    | error e => rfl
    | ok modifierIndex =>
      have htokens := (Modifier.Index.sound_of_foldlM hmodifiers).tokens_eq
      have hclaims : kindIndex.claimsSuffix = Kind.claimsSuffix kindIndex.kinds :=
        funext hsound.claimsSuffix_eq
      simp only [Outcome.ok_bind, Outcome.map_ok, htokens, hclaims, Modifier.sortedTokens]
      cases (Text.sort (modifierIndex.modifiers.flatMap Modifier.tokens)).find?
        (Kind.claimsSuffix kindIndex.kinds) with
      | none => rfl
      | some token => rfl

/-- A registry with tables comes from registrations alone. -/
theorem sound_of_build (h : build kinds modifiers = .ok index) :
    index.kinds.Sound ∧ index.modifiers.Sound := by
  obtain ⟨kindIndex, hkinds, h⟩ := Outcome.bind_eq_ok_iff.mp h
  obtain ⟨modifierIndex, hmodifiers, h⟩ := Outcome.bind_eq_ok_iff.mp h
  split at h
  · cases h
  · cases h
    exact ⟨Kind.Index.sound_of_foldlM hkinds, Modifier.Index.sound_of_foldlM hmodifiers⟩

end Registry.Index

end SearchFilter
