import Mathlib.Data.List.Lex
import SearchFilter.Proofs.Registry.Built
import SearchFilter.Proofs.Vocabulary.Keys
import SearchFilter.Proofs.Vocabulary.Segments
/-!
# Chains of modifiers

Segments are read as a chain of modifiers by grouping them into tokens. `Reads` says which modifiers tokens stand for, with the look-ups of the registry; `Spells` says the same by membership, and the two agree in a registry that was built.

Several groupings of the same segments may stand for chains. The search takes one of them: where two groupings differ first, the one with the longer token is preferred, whatever comes behind it. `chain?_eq_some_iff` says that the search finds the preferred grouping of all segments, and nothing if there is no grouping at all. What may follow the chain in a name has no part in this choice.
-/

namespace SearchFilter

namespace Vocabulary

variable {modifiers chain : List Modifier} {type result : SemanticType} {modifier : Modifier}
  {token pending part : String} {tokens parts : List String}

/-! ### Tokens -/

/-- The tokens stand for a chain of modifiers, each of which takes the type that the one before it leads to. -/
inductive Reads (modifiers : List Modifier) :
    SemanticType → List String → List Modifier → SemanticType → Prop
  | nil {type : SemanticType} : Reads modifiers type [] [] type
  | cons {type result : SemanticType} {token : String} {modifier : Modifier}
      {tokens : List String} {chain : List Modifier}
      (hmodifier : modifierFor? modifiers type token = some modifier)
      (htail : Reads modifiers (modifier.returnType type) tokens chain result) :
      Reads modifiers type (token :: tokens) (modifier :: chain) result

/-- The tokens are names or aliases of modifiers, one for each modifier of the chain, and each modifier takes the type that the one before it leads to. -/
inductive Spells (modifiers : List Modifier) :
    SemanticType → List String → List Modifier → SemanticType → Prop
  | nil {type : SemanticType} : Spells modifiers type [] [] type
  | cons {type result : SemanticType} {token : String} {modifier : Modifier}
      {tokens : List String} {chain : List Modifier}
      (hmem : modifier ∈ modifiers) (htoken : token ∈ modifier.tokens)
      (happlies : modifier.appliesTo type = true)
      (htail : Spells modifiers (modifier.returnType type) tokens chain result) :
      Spells modifiers type (token :: tokens) (modifier :: chain) result

theorem Reads.unique (h : Reads modifiers type tokens chain result) {chain' : List Modifier}
    {result' : SemanticType} (h' : Reads modifiers type tokens chain' result') :
    chain = chain' ∧ result = result' := by
  induction h generalizing chain' with
  | nil =>
    cases h'
    exact ⟨rfl, rfl⟩
  | cons hmodifier _ ih =>
    cases h' with
    | cons hmodifier' htail' =>
      cases hmodifier.symm.trans hmodifier'
      obtain ⟨rfl, rfl⟩ := ih htail'
      exact ⟨rfl, rfl⟩

theorem Reads.result_eq (h : Reads modifiers type tokens chain result) :
    result = chain.foldl (fun type modifier => modifier.returnType type) type := by
  induction h with
  | nil => rfl
  | cons _ _ ih => exact ih

theorem Reads.of_append {before after : List String}
    (h : Reads modifiers type (before ++ after) chain result) :
    ∃ first middle second, chain = first ++ second ∧ Reads modifiers type before first middle ∧
      Reads modifiers middle after second result := by
  induction before generalizing type chain with
  | nil => exact ⟨[], type, chain, rfl, .nil, h⟩
  | cons token before ih =>
    cases h with
    | cons hmodifier htail =>
      obtain ⟨first, middle, second, rfl, hfirst, hsecond⟩ := ih htail
      exact ⟨_ :: first, middle, second, rfl, .cons hmodifier hfirst, hsecond⟩

theorem mem_tokens_of_modifierFor? (h : modifierFor? modifiers type token = some modifier) :
    modifier ∈ modifiers ∧ token ∈ modifier.tokens ∧ modifier.appliesTo type = true := by
  have hfound := (Option.filter_eq_some_iff.mp h)
  exact ⟨mem_of_modifierFor? h, by simpa using List.find?_some hfound.1, hfound.2⟩

theorem Reads.mem_tokens (h : Reads modifiers type tokens chain result) :
    ∀ token ∈ tokens, token ∈ modifiers.flatMap Modifier.tokens := by
  induction h with
  | nil => exact fun _ hmem => absurd hmem List.not_mem_nil
  | cons hmodifier _ ih =>
    obtain ⟨hmem, htoken, _⟩ := mem_tokens_of_modifierFor? hmodifier
    rw [List.forall_mem_cons]
    exact ⟨List.mem_flatMap.mpr ⟨_, hmem, htoken⟩, ih⟩

theorem Reads.spells (h : Reads modifiers type tokens chain result) :
    Spells modifiers type tokens chain result := by
  induction h with
  | nil => exact .nil
  | cons hmodifier _ ih =>
    obtain ⟨hmem, htoken, happlies⟩ := mem_tokens_of_modifierFor? hmodifier
    exact .cons hmem htoken happlies ih

/-- Where no token belongs to two modifiers, a token stands for whichever modifier has it. -/
theorem Spells.reads {registry : Registry} (hdistinct : registry.Distinct)
    (h : Spells registry.modifiers type tokens chain result) :
    Reads registry.modifiers type tokens chain result := by
  induction h with
  | nil => exact .nil
  | cons hmem htoken happlies _ ih =>
    refine .cons ?_ ih
    rw [modifierFor?, hdistinct.resolve?_eq_some_iff.mpr ⟨hmem, htoken⟩, Option.filter_some,
      if_pos happlies]

/-! ### Groupings -/

/-- Where the lists differ first, the first list has the longer token. -/
def Longer : List String → List String → Prop :=
  List.Lex fun first second => (segmentsOf second).length < (segmentsOf first).length

theorem Longer.asymm {first second : List String} (h : Longer first second) :
    ¬ Longer second first := by
  have hlength : Std.Asymm fun first second : String =>
      (segmentsOf second).length < (segmentsOf first).length :=
    ⟨fun _ _ => Nat.lt_asymm⟩
  exact (List.Lex.asymm _).asymm _ _ h

/-- Of all groupings of the same segments that stand for chains, the search tries these tokens first. -/
def Preferred (modifiers : List Modifier) (type : SemanticType) (tokens : List String) : Prop :=
  ∀ tokens' chain result, Reads modifiers type tokens' chain result →
    tokens'.flatMap segmentsOf = tokens.flatMap segmentsOf → tokens' = tokens ∨ Longer tokens tokens'

/-- The tokens stand for a chain, the first of them begins with `pending`, and all of them together consist of `pending` and the parts. -/
structure Groups (modifiers : List Modifier) (type : SemanticType) (pending : String)
    (parts tokens : List String) (chain : List Modifier) (result : SemanticType) : Prop where
  reads : Reads modifiers type tokens chain result
  begins : ∃ token rest, tokens = token :: rest ∧ segmentsOf pending <+: segmentsOf token
  segments : tokens.flatMap segmentsOf = segmentsOf pending ++ parts

/-- Without further parts the only token is the one that is pending. -/
theorem groups_nil_iff : Groups modifiers type pending [] tokens chain result ↔
    ∃ modifier, modifierFor? modifiers type pending = some modifier ∧ tokens = [pending] ∧
      chain = [modifier] ∧ result = modifier.returnType type := by
  constructor
  · rintro ⟨hreads, ⟨token, rest, rfl, others, hothers⟩, hsegments⟩
    rw [List.append_nil, List.flatMap_cons, ← hothers, List.append_assoc,
      List.append_right_eq_self, List.append_eq_nil_iff] at hsegments
    obtain ⟨rfl, hrest⟩ := hsegments
    rw [List.append_nil] at hothers
    cases segmentsOf_injective hothers
    cases rest with
    | nil =>
      cases hreads with
      | cons hmodifier htail =>
        cases htail
        exact ⟨_, hmodifier, rfl, rfl, rfl⟩
    | cons next rest =>
      rw [List.flatMap_cons, List.append_eq_nil_iff] at hrest
      exact absurd hrest.1 (segmentsOf_ne_nil next)
  · rintro ⟨modifier, hmodifier, rfl, rfl, rfl⟩
    exact ⟨.cons hmodifier .nil, ⟨pending, [], rfl, List.prefix_rfl⟩, by simp⟩

/-- The next part belongs to the token that is pending, or that token ends and the part begins another. -/
theorem groups_cons_iff (hpart : segmentsOf part = [part]) :
    Groups modifiers type pending (part :: parts) tokens chain result ↔
      Groups modifiers type (pending ++ "_" ++ part) parts tokens chain result ∨
        ∃ modifier tail rest, modifierFor? modifiers type pending = some modifier ∧
          tokens = pending :: tail ∧ chain = modifier :: rest ∧
          Groups modifiers (modifier.returnType type) part parts tail rest result := by
  have hlonger : segmentsOf (pending ++ "_" ++ part) = segmentsOf pending ++ [part] := by
    rw [segmentsOf_append, hpart]
  constructor
  · rintro ⟨hreads, ⟨token, rest, rfl, others, hothers⟩, hsegments⟩
    rw [List.flatMap_cons, ← hothers, List.append_assoc, List.append_cancel_left_eq] at hsegments
    cases others with
    | nil =>
      -- the token ends, so the next one begins with the part
      rw [List.append_nil] at hothers
      rw [List.nil_append] at hsegments
      cases segmentsOf_injective hothers
      cases hreads with
      | @cons _ _ _ modifier _ chain hmodifier htail =>
        refine .inr ⟨modifier, rest, chain, hmodifier, rfl, rfl, htail, ?_, ?_⟩
        · cases rest with
          | nil => exact absurd hsegments.symm (List.cons_ne_nil _ _)
          | cons next rest =>
            obtain ⟨first, others, hfirst⟩ := List.exists_cons_of_ne_nil (segmentsOf_ne_nil next)
            rw [List.flatMap_cons, hfirst, List.cons_append, List.cons.injEq] at hsegments
            refine ⟨next, rest, rfl, others, ?_⟩
            rw [hpart, hfirst, hsegments.1, List.singleton_append]
        · rw [hsegments, hpart, List.singleton_append]
    | cons first others =>
      rw [List.cons_append, List.cons.injEq] at hsegments
      obtain ⟨rfl, hsegments⟩ := hsegments
      refine .inl ⟨hreads, ⟨token, rest, rfl, others, ?_⟩, ?_⟩
      · rw [hlonger, List.append_assoc, List.singleton_append, hothers]
      · rw [hlonger, List.flatMap_cons, ← hothers, ← hsegments]
        simp only [List.append_assoc, List.cons_append, List.nil_append]
  · rintro (⟨hreads, ⟨token, rest, rfl, hbegins⟩, hsegments⟩ |
      ⟨modifier, tail, rest, hmodifier, rfl, rfl, hreads, _, hsegments⟩)
    · rw [hlonger] at hbegins hsegments
      refine ⟨hreads, ⟨token, rest, rfl, (List.prefix_append _ _).trans hbegins⟩, ?_⟩
      rw [hsegments, List.append_assoc, List.singleton_append]
    · refine ⟨.cons hmodifier hreads, ⟨pending, tail, rfl, List.prefix_rfl⟩, ?_⟩
      rw [List.flatMap_cons, hsegments, hpart, List.singleton_append]

/-! ### The search -/

/-- The search finds the grouping that is preferred to all others, or there is none. -/
theorem chainFrom?_spec (hparts : ∀ part ∈ parts, segmentsOf part = [part]) :
    (chainFrom? modifiers type pending parts = none →
      ∀ tokens chain result, ¬ Groups modifiers type pending parts tokens chain result) ∧
    ∀ chain result, chainFrom? modifiers type pending parts = some (chain, result) →
      ∃ tokens, Groups modifiers type pending parts tokens chain result ∧
        ∀ tokens' chain' result', Groups modifiers type pending parts tokens' chain' result' →
          tokens' = tokens ∨ Longer tokens tokens' := by
  induction parts generalizing type pending with
  | nil =>
    rw [chainFrom?]
    constructor
    · intro hnone tokens chain result hgroups
      obtain ⟨modifier, hmodifier, _⟩ := groups_nil_iff.mp hgroups
      rw [hmodifier] at hnone
      cases hnone
    · intro chain result hsome
      obtain ⟨modifier, hmodifier, heq⟩ := Option.map_eq_some_iff.mp hsome
      cases heq
      refine ⟨[pending], groups_nil_iff.mpr ⟨modifier, hmodifier, rfl, rfl, rfl⟩, ?_⟩
      intro tokens' chain' result' hgroups
      obtain ⟨_, _, htokens, _⟩ := groups_nil_iff.mp hgroups
      exact .inl htokens
  | cons part parts ih =>
    obtain ⟨hpart, hparts⟩ := List.forall_mem_cons.mp hparts
    simp only [groups_cons_iff hpart]
    rw [chainFrom?]
    split
    · -- a longer token is found, and any grouping with the shorter one comes after it
      rename_i found hlonger
      refine ⟨fun hnone => absurd hnone (Option.some_ne_none found), fun chain result hsome => ?_⟩
      cases hsome
      obtain ⟨tokens, hgroups, hfirst⟩ := (ih hparts).2 chain result hlonger
      refine ⟨tokens, .inl hgroups, ?_⟩
      rintro tokens' chain' result' (hgroups' | ⟨_, tail, _, _, rfl, _⟩)
      · exact hfirst tokens' chain' result' hgroups'
      · obtain ⟨token, rest, rfl, hbegins⟩ := hgroups.begins
        refine .inr (.rel ?_)
        have hlength := hbegins.length_le
        rw [segmentsOf_append, hpart, List.length_append, List.length_singleton] at hlength
        omega
    · -- no token longer than the one that is pending leads anywhere
      rename_i hlonger
      have hnone := (ih hparts).1 hlonger
      cases hmodifier : modifierFor? modifiers type pending with
      | none =>
        refine ⟨fun _ => ?_, fun chain result hsome => by cases hsome⟩
        rintro tokens chain result (hgroups | ⟨_, _, _, hfound, _⟩)
        · exact hnone _ _ _ hgroups
        · cases hfound
      | some modifier =>
        simp only [Option.map_eq_none_iff, Option.map_eq_some_iff]
        constructor
        · rintro hrest tokens chain result (hgroups | ⟨_, _, _, hfound, _, _, hgroups⟩)
          · exact hnone _ _ _ hgroups
          · cases hfound
            exact (ih hparts).1 hrest _ _ _ hgroups
        · rintro chain result ⟨⟨rest, result'⟩, hrest, heq⟩
          cases heq
          obtain ⟨tail, hgroups, hfirst⟩ := (ih hparts).2 rest _ hrest
          refine ⟨pending :: tail, .inr ⟨modifier, tail, rest, rfl, rfl, rfl, hgroups⟩, ?_⟩
          rintro tokens' chain' result' (hgroups' | ⟨_, tail', _, hfound, rfl, _, hgroups'⟩)
          · exact absurd hgroups' (hnone _ _ _)
          · cases hfound
            exact (hfirst _ _ _ hgroups').imp (congrArg _) .cons

theorem groups_iff_reads (hpart : segmentsOf part = [part]) :
    Groups modifiers type part parts tokens chain result ↔
      Reads modifiers type tokens chain result ∧ tokens.flatMap segmentsOf = part :: parts := by
  refine ⟨fun h => ⟨h.reads, by rw [h.segments, hpart, List.singleton_append]⟩, ?_⟩
  rintro ⟨hreads, hsegments⟩
  refine ⟨hreads, ?_, by rw [hsegments, hpart, List.singleton_append]⟩
  cases tokens with
  | nil => exact absurd hsegments.symm (List.cons_ne_nil _ _)
  | cons token rest =>
    obtain ⟨first, others, hfirst⟩ := List.exists_cons_of_ne_nil (segmentsOf_ne_nil token)
    rw [List.flatMap_cons, hfirst, List.cons_append, List.cons.injEq] at hsegments
    refine ⟨token, rest, rfl, others, ?_⟩
    rw [hpart, hfirst, hsegments.1, List.singleton_append]

theorem eq_nil_of_flatMap_segmentsOf (h : tokens.flatMap segmentsOf = []) : tokens = [] := by
  cases tokens with
  | nil => rfl
  | cons token rest =>
    rw [List.flatMap_cons, List.append_eq_nil_iff] at h
    exact absurd h.1 (segmentsOf_ne_nil token)

theorem chain?_isSome (h : Reads modifiers type tokens chain result)
    (hparts : tokens.flatMap segmentsOf = parts)
    (hplain : ∀ part ∈ parts, segmentsOf part = [part]) :
    (chain? modifiers type parts).isSome = true := by
  cases parts with
  | nil => rfl
  | cons part rest =>
    obtain ⟨hpart, hrest⟩ := List.forall_mem_cons.mp hplain
    by_contra hnone
    rw [Option.not_isSome_iff_eq_none] at hnone
    exact (chainFrom?_spec hrest).1 hnone _ _ _ ((groups_iff_reads hpart).mpr ⟨h, hparts⟩)

/-- What the search finds for segments is the preferred grouping. -/
theorem exists_preferred_of_chain? (h : chain? modifiers type parts = some (chain, result))
    (hplain : ∀ part ∈ parts, segmentsOf part = [part]) :
    ∃ tokens, Reads modifiers type tokens chain result ∧ tokens.flatMap segmentsOf = parts ∧
      Preferred modifiers type tokens := by
  cases parts with
  | nil =>
    cases h
    refine ⟨[], .nil, rfl, fun tokens' _ _ _ hsame => ?_⟩
    exact .inl (eq_nil_of_flatMap_segmentsOf hsame)
  | cons part rest =>
    obtain ⟨hpart, hrest⟩ := List.forall_mem_cons.mp hplain
    obtain ⟨tokens, hgroups, hfirst⟩ := (chainFrom?_spec hrest).2 chain result h
    obtain ⟨hreads, hsegments⟩ := (groups_iff_reads hpart).mp hgroups
    refine ⟨tokens, hreads, hsegments, fun tokens' chain' result' hreads' hsame => ?_⟩
    exact hfirst _ _ _ ((groups_iff_reads hpart).mpr ⟨hreads', hsame.trans hsegments⟩)

theorem chain?_eq_some_iff (hplain : ∀ part ∈ parts, segmentsOf part = [part]) :
    chain? modifiers type parts = some (chain, result) ↔
      ∃ tokens, Reads modifiers type tokens chain result ∧ tokens.flatMap segmentsOf = parts ∧
        Preferred modifiers type tokens := by
  refine ⟨fun h => exists_preferred_of_chain? h hplain, ?_⟩
  rintro ⟨tokens, hreads, hsegments, hpreferred⟩
  obtain ⟨⟨chain', result'⟩, hchain⟩ := Option.isSome_iff_exists.mp
    (chain?_isSome hreads hsegments hplain)
  obtain ⟨found, hfound, hsame, hfirst⟩ := exists_preferred_of_chain? hchain hplain
  -- both groupings are preferred to all others, so they are the same
  have hequal : found = tokens := by
    rcases hpreferred _ _ _ hfound (hsame.trans hsegments.symm) with heq | hlonger
    · exact heq
    · rcases hfirst _ _ _ hreads (hsegments.trans hsame.symm) with heq | hlonger'
      · exact heq.symm
      · exact absurd hlonger' hlonger.asymm
  subst hequal
  obtain ⟨rfl, rfl⟩ := hfound.unique hreads
  exact hchain

theorem segmentsOf_of_mem_flatMap (hpart : part ∈ tokens.flatMap segmentsOf) :
    segmentsOf part = [part] := by
  obtain ⟨token, _, hmem⟩ := List.mem_flatMap.mp hpart
  exact segmentsOf_of_mem hmem

/-- Of the groupings of the same segments there is one that is preferred. -/
theorem Reads.exists_preferred (h : Reads modifiers type tokens chain result) :
    ∃ tokens' chain' result', Reads modifiers type tokens' chain' result' ∧
      tokens'.flatMap segmentsOf = tokens.flatMap segmentsOf ∧
        Preferred modifiers type tokens' := by
  have hplain : ∀ part ∈ tokens.flatMap segmentsOf, segmentsOf part = [part] :=
    fun _ => segmentsOf_of_mem_flatMap
  obtain ⟨⟨chain', result'⟩, hchain⟩ := Option.isSome_iff_exists.mp (chain?_isSome h rfl hplain)
  obtain ⟨tokens', hpreferred⟩ := exists_preferred_of_chain? hchain hplain
  exact ⟨tokens', chain', result', hpreferred⟩

end Vocabulary

end SearchFilter
