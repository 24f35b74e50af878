import SearchFilter.Proofs.Registry.Built
import SearchFilter.Proofs.Registry.Index
import SearchFilter.Proofs.Text.Parts
/-!
# Which kinds and modifiers make a registry

A registry is built exactly from kinds and modifiers that are `Unambiguous`, and holds them as they were given. What its tables answer is then determined by what the kinds and modifiers declare: a suffix leads to the one kind that names it and applies to the type, a token to the one modifier that has it.
-/

namespace SearchFilter

namespace Registry

variable {kinds : List Kind} {modifiers : List Modifier} {registry : Registry}

/-- No name can be read in two ways. -/
structure Unambiguous (kinds : List Kind) (modifiers : List Modifier) : Prop where
  names : (kinds.map (·.name)).Nodup
  /-- Two kinds for a common type have no suffix in common. -/
  suffixes : kinds.Pairwise fun first second => ∀ type, first.appliesTo type = true →
    second.appliesTo type = true → ∀ suffix ∈ first.suffixes, suffix ∉ second.suffixes
  tokens : (modifiers.flatMap Modifier.tokens).Nodup
  apart : ∀ token ∈ modifiers.flatMap Modifier.tokens, ∀ kind ∈ kinds, token ∉ kind.suffixes

theorem pairwise_apart_iff : kinds.Pairwise Kind.Apart ↔ (kinds.map (·.name)).Nodup ∧
    kinds.Pairwise fun first second => ∀ type, first.appliesTo type = true →
      second.appliesTo type = true → ∀ suffix ∈ first.suffixes, suffix ∉ second.suffixes := by
  rw [List.Nodup, List.pairwise_map, ← List.pairwise_and_iff]
  refine List.Pairwise.iff fun first second => ⟨?_, ?_⟩
  · rintro ⟨hnames, hsuffixes⟩
    refine ⟨hnames, fun type hfirst hsecond suffix hsuffix hsuffix' => ?_⟩
    exact Kind.overlaps_eq_false_iff.mp (hsuffixes suffix hsuffix' hsuffix) type hfirst hsecond
  · rintro ⟨hnames, hsuffixes⟩
    refine ⟨hnames, fun suffix hsuffix hsuffix' => Kind.overlaps_eq_false_iff.mpr ?_⟩
    intro type hfirst hsecond
    exact hsuffixes type hfirst hsecond suffix hsuffix' hsuffix

theorem find?_claimsSuffix_eq_none_iff :
    (Modifier.sortedTokens modifiers).find? (Kind.claimsSuffix kinds) = none ↔
      ∀ token ∈ modifiers.flatMap Modifier.tokens, ∀ kind ∈ kinds, token ∉ kind.suffixes := by
  simp only [Modifier.sortedTokens, Text.sort, List.find?_eq_none, (Text.sortByKey_perm _ _).mem_iff,
    Kind.claimsSuffix, List.any_eq_true, List.contains_iff_mem, not_exists, not_and]

/-- A registry is built exactly from what is unambiguous, and holds it in the order in which it was given. -/
theorem build_eq_ok_iff :
    build kinds modifiers = .ok registry ↔
      registry = ⟨kinds, modifiers⟩ ∧ Unambiguous kinds modifiers := by
  have hchecks : Unambiguous kinds modifiers ↔
      kinds.Pairwise Kind.Apart ∧ (modifiers.flatMap Modifier.tokens).Nodup ∧
        (Modifier.sortedTokens modifiers).find? (Kind.claimsSuffix kinds) = none := by
    rw [pairwise_apart_iff, find?_claimsSuffix_eq_none_iff]
    exact ⟨fun h => ⟨⟨h.names, h.suffixes⟩, h.tokens, h.apart⟩,
      fun ⟨⟨hnames, hsuffixes⟩, htokens, hapart⟩ => ⟨hnames, hsuffixes, htokens, hapart⟩⟩
  rw [hchecks]
  simp only [build, Outcome.bind_eq_ok_iff, Kind.foldlM_register_eq_ok_iff,
    Modifier.foldlM_register_eq_ok_iff]
  constructor
  · rintro ⟨_, ⟨rfl, hkinds⟩, _, ⟨rfl, hmodifiers⟩, h⟩
    split at h
    · cases h
    · rename_i hfree
      cases h
      exact ⟨rfl, hkinds, hmodifiers, hfree⟩
  · rintro ⟨rfl, hkinds, hmodifiers, hfree⟩
    refine ⟨kinds, ⟨rfl, hkinds⟩, modifiers, ⟨rfl, hmodifiers⟩, ?_⟩
    rw [hfree]

example : (build Kind.standard Modifier.standard).toOption = some standard := by decide +kernel

/-- The tables of a registry answer as its kinds and modifiers declare, and as going through the lists does. -/
structure Index.Answers (kinds : List Kind) (modifiers : List Modifier) (index : Index) :
    Prop where
  registry_eq : index.registry = ⟨kinds, modifiers⟩
  suffix : ∀ suffix type kind, index.kinds.resolveSuffix? suffix type = some kind ↔
    kind ∈ kinds ∧ suffix ∈ kind.suffixes ∧ kind.appliesTo type = true
  token : ∀ token modifier, index.modifiers.resolve? token = some modifier ↔
    modifier ∈ modifiers ∧ token ∈ modifier.tokens
  atMostOne : ∀ suffix type,
    (kinds.filter fun kind => kind.suffixes.contains suffix && kind.appliesTo type).length ≤ 1
  suffix_eq : ∀ suffix type,
    index.kinds.resolveSuffix? suffix type = Kind.resolveSuffix? kinds suffix type
  token_eq : ∀ token, index.modifiers.resolve? token = Modifier.resolve? modifiers token

theorem Index.answers_of_build {index : Index} (h : Index.build kinds modifiers = .ok index) :
    index.Answers kinds modifiers := by
  obtain ⟨hkinds, hmodifiers⟩ := sound_of_build h
  have hbuild : Registry.build kinds modifiers = .ok index.registry := by
    rw [← build_registry, h, Outcome.map_ok]
  have hdistinct := distinct_of_build hbuild
  have hregistry := (build_eq_ok_iff.mp hbuild).1
  have hsame : index.kinds.kinds = kinds := congrArg Registry.kinds hregistry
  have hsame' : index.modifiers.modifiers = modifiers := congrArg Registry.modifiers hregistry
  rw [hregistry] at hdistinct
  have hsuffix : ∀ suffix type,
      index.kinds.resolveSuffix? suffix type = Kind.resolveSuffix? kinds suffix type := by
    intro suffix type
    rw [hkinds.resolveSuffix?_eq, hsame]
  have htoken : ∀ token, index.modifiers.resolve? token = Modifier.resolve? modifiers token := by
    intro token
    rw [hmodifiers.resolve?_eq, hsame']
  constructor
  · exact hregistry
  · intro suffix type kind
    rw [hsuffix]
    exact hdistinct.resolveSuffix?_eq_some_iff
  · intro token modifier
    rw [htoken]
    exact hdistinct.resolve?_eq_some_iff
  · exact fun suffix type =>
      length_filter_le_one_of_pairwise (hdistinct.pairwise_suffix suffix type)
  · exact hsuffix
  · exact htoken

/-! ### Main results -/

/-- A registry is built, with tables or without, exactly if nothing is ambiguous, and its tables answer as declared. -/
theorem build_isOk_iff_unambiguous (kinds : List Kind) (modifiers : List Modifier) :
    ((∃ registry, build kinds modifiers = .ok registry) ↔ Unambiguous kinds modifiers) ∧
      (Index.build kinds modifiers).map Index.registry = build kinds modifiers ∧
      ∀ index, Index.build kinds modifiers = .ok index → index.Answers kinds modifiers := by
  refine ⟨?_, Index.build_registry kinds modifiers, fun index => Index.answers_of_build⟩
  constructor
  · intro ⟨registry, h⟩
    exact (build_eq_ok_iff.mp h).2
  · intro h
    exact ⟨⟨kinds, modifiers⟩, build_eq_ok_iff.mpr ⟨rfl, h⟩⟩

end Registry

/-- A kind beside the standard ones that shares a suffix with one of them for another type. -/
def Kind.matching : Kind where
  name := "matches"
  aliases := ["like"]
  types := [.binary]
  operation := .compare "~"

/-- The suffix `like` is that of two kinds, and the type tells which of them is meant. -/
theorem Registry.build_isOk_iff_unambiguous_matching :
    Unambiguous (Kind.standard ++ [Kind.matching]) Modifier.standard ∧
      ∃ index, Index.build (Kind.standard ++ [Kind.matching]) Modifier.standard = .ok index ∧
        index.kinds.resolveSuffix? "like" .text = some Kind.contains ∧
        index.kinds.resolveSuffix? "like" .binary = some Kind.matching := by
  obtain ⟨index, hindex⟩ : ∃ index,
      Index.build (Kind.standard ++ [Kind.matching]) Modifier.standard = .ok index :=
    Outcome.exists_of_isOk (by decide +kernel)
  obtain ⟨hunambiguous, hregistry, hanswers⟩ :=
    build_isOk_iff_unambiguous (Kind.standard ++ [Kind.matching]) Modifier.standard
  rw [hindex, Outcome.map_ok] at hregistry
  have hanswer := hanswers index hindex
  refine ⟨hunambiguous.mp ⟨index.registry, hregistry.symm⟩, index, hindex, ?_, ?_⟩
  · exact (hanswer.suffix "like" .text Kind.contains).mpr (by decide)
  · exact (hanswer.suffix "like" .binary Kind.matching).mpr (by decide)

end SearchFilter
