import Mathlib.Data.List.Basic
import Mathlib.Data.List.Nodup
import SearchFilter.Proofs.Outcome
import SearchFilter.Proofs.Selection
import SearchFilter.Registry
/-!
# Built registries

Registration compares what comes with all that is there already, so a list is registered exactly if any two of its elements can stand together, and the result is the list itself. For kinds this means different names and no common suffix where a type is common, for modifiers no common token. A kind may name a suffix twice, a modifier may not name a token twice.

So in a registry that was built no token belongs to two modifiers, and no suffix to two kinds for a common type. A look-up takes the first entry that fits, in the order of registration. As there is at most one, the order has no part in the result, and `resolve?_eq_some_iff` and `resolveSuffix?_eq_some_iff` replace both look-ups by membership.
-/

namespace SearchFilter

/-! ### Registration -/

namespace Modifier

variable {earlier modifiers : List Modifier} {modifier : Modifier}

theorem repeatedToken?_eq_none_iff {taken tokens : List String} :
    repeatedToken? taken tokens = none ↔ tokens.Nodup ∧ ∀ token ∈ tokens, token ∉ taken := by
  induction tokens generalizing taken with
  | nil => simp [repeatedToken?]
  | cons token rest ih =>
    rw [repeatedToken?, List.nodup_cons, List.forall_mem_cons]
    by_cases htaken : token ∈ taken
    · simp [htaken]
    · have hnot : taken.contains token = false := by simpa using htaken
      rw [hnot, if_neg Bool.false_ne_true, ih]
      constructor
      · rintro ⟨hnodup, hfree⟩
        refine ⟨⟨fun hmem => hfree token hmem List.mem_cons_self, hnodup⟩, htaken, ?_⟩
        exact fun other hother htaken => hfree other hother (List.mem_cons_of_mem _ htaken)
      · rintro ⟨⟨hfresh, hnodup⟩, _, hfree⟩
        refine ⟨hnodup, fun other hother hmem => ?_⟩
        rcases List.mem_cons.mp hmem with rfl | hmem
        · exact hfresh hother
        · exact hfree other hother hmem

theorem register_eq_ok_iff : register earlier modifier = .ok modifiers ↔
    modifiers = earlier ++ [modifier] ∧ modifier.tokens.Nodup ∧
      ∀ token ∈ modifier.tokens, ∀ other ∈ earlier, token ∉ other.tokens := by
  have hnone : repeatedToken? (earlier.flatMap tokens) modifier.tokens = none ↔
      modifier.tokens.Nodup ∧ ∀ token ∈ modifier.tokens, ∀ other ∈ earlier,
        token ∉ other.tokens := by
    simp only [repeatedToken?_eq_none_iff, List.mem_flatMap, not_exists, not_and]
  rw [← hnone, register]
  cases repeatedToken? (earlier.flatMap tokens) modifier.tokens with
  | none => simp only [Except.ok.injEq, and_true, eq_comm]
  | some token => simp only [reduceCtorEq, and_false]

/-- Modifiers are registered one after another exactly if no token is there twice, and they stay as they are. -/
theorem foldlM_register_eq_ok_iff {given : List Modifier} :
    given.foldlM register [] = .ok modifiers ↔
      modifiers = given ∧ (given.flatMap tokens).Nodup := by
  have hregister : ∀ {earlier : List Modifier} {modifier later},
      register earlier modifier = .ok later ↔ later = earlier ++ [modifier] ∧
        modifier.tokens.Nodup ∧ ∀ other ∈ earlier, other.tokens.Disjoint modifier.tokens := by
    intro earlier modifier later
    rw [register_eq_ok_iff]
    refine and_congr_right fun _ => and_congr_right fun _ => ⟨?_, ?_⟩
    · intro h other hother token htoken htoken'
      exact h token htoken' other hother htoken
    · intro h token htoken other hother htoken'
      exact h other hother htoken' htoken
  rw [Outcome.foldlM_append_eq_ok_iff hregister, List.nodup_flatMap]

end Modifier

namespace Kind

variable {earlier kinds : List Kind} {kind : Kind}

theorem conflict?_eq_none_iff {suffixes : List String} :
    conflict? earlier kind suffixes = none ↔
      ∀ suffix ∈ suffixes, ∀ other ∈ earlier, suffix ∈ other.suffixes →
        other.overlaps kind = false := by
  induction suffixes with
  | nil => simp [conflict?]
  | cons suffix rest ih =>
    have hrival : rival? earlier kind suffix = none ↔ ∀ other ∈ earlier,
        suffix ∈ other.suffixes → other.overlaps kind = false := by
      simp only [rival?, List.find?_eq_none, Bool.and_eq_true, List.contains_iff_mem, not_and,
        Bool.not_eq_true]
    rw [List.forall_mem_cons, ← ih, ← hrival, conflict?]
    cases rival? earlier kind suffix with
    | none => simp only [true_and]
    | some other => simp only [reduceCtorEq, false_and]

theorem register_eq_ok_iff : register earlier kind = .ok kinds ↔
    kinds = earlier ++ [kind] ∧ (∀ other ∈ earlier, other.name ≠ kind.name) ∧
      ∀ suffix ∈ kind.suffixes, ∀ other ∈ earlier, suffix ∈ other.suffixes →
        other.overlaps kind = false := by
  have hnames : (earlier.any fun other => other.name == kind.name) = false ↔
      ∀ other ∈ earlier, other.name ≠ kind.name := by
    simp only [List.any_eq_false, beq_iff_eq]
  rw [← hnames, ← conflict?_eq_none_iff, register]
  cases earlier.any fun other => other.name == kind.name with
  | true => simp
  | false =>
    cases conflict? earlier kind kind.suffixes with
    | none => simp [eq_comm]
    | some conflict => simp

structure Apart (first second : Kind) : Prop where
  names : first.name ≠ second.name
  suffixes : ∀ suffix ∈ second.suffixes, suffix ∈ first.suffixes → first.overlaps second = false

/-- Kinds are registered one after another exactly if any two can be, and they stay as they are. -/
theorem foldlM_register_eq_ok_iff {given : List Kind} :
    given.foldlM register [] = .ok kinds ↔ kinds = given ∧ given.Pairwise Apart := by
  have hregister : ∀ {earlier : List Kind} {kind later}, register earlier kind = .ok later ↔
      later = earlier ++ [kind] ∧ True ∧ ∀ other ∈ earlier, other.Apart kind := by
    intro earlier kind later
    rw [register_eq_ok_iff, true_and]
    refine and_congr_right fun _ => ⟨?_, ?_⟩
    · rintro ⟨hnames, hsuffixes⟩ other hother
      exact ⟨hnames other hother, fun suffix hsuffix => hsuffixes suffix hsuffix other hother⟩
    · intro h
      exact ⟨fun other hother => (h other hother).names,
        fun suffix hsuffix other hother => (h other hother).suffixes suffix hsuffix⟩
  rw [Outcome.foldlM_append_eq_ok_iff hregister]
  simp only [implies_true, true_and]

theorem overlaps_eq_false_iff {first second : Kind} : first.overlaps second = false ↔
    ∀ type, first.appliesTo type = true → second.appliesTo type = true → False := by
  rw [overlaps, List.any_eq_false]
  constructor
  · intro h type hfirst hsecond
    exact h type (SemanticType.mem_all type) (by rw [hfirst, hsecond]; rfl)
  · intro h type _ hboth
    obtain ⟨hfirst, hsecond⟩ := Bool.and_eq_true_iff.mp hboth
    exact h type hfirst hsecond

end Kind

/-! ### What building yields -/

/-- No token belongs to two modifiers, and no suffix to two kinds for a common type. -/
structure Registry.Distinct (registry : Registry) : Prop where
  modifiers : registry.modifiers.Pairwise fun first second =>
    ∀ token ∈ second.tokens, token ∉ first.tokens
  kinds : registry.kinds.Pairwise fun first second =>
    ∀ suffix ∈ second.suffixes, suffix ∈ first.suffixes → first.overlaps second = false

namespace Registry

variable {kinds : List Kind} {modifiers : List Modifier} {registry : Registry}

theorem distinct_of_build (h : build kinds modifiers = .ok registry) : registry.Distinct := by
  obtain ⟨kinds', hkinds, h⟩ := Outcome.bind_eq_ok_iff.mp h
  obtain ⟨modifiers', hmodifiers, h⟩ := Outcome.bind_eq_ok_iff.mp h
  split at h
  · cases h
  · cases h
    obtain ⟨hsame, hapart⟩ := Kind.foldlM_register_eq_ok_iff.mp hkinds
    obtain ⟨hsame', hnodup⟩ := Modifier.foldlM_register_eq_ok_iff.mp hmodifiers
    rw [hsame, hsame']
    constructor
    · refine (List.nodup_flatMap.mp hnodup).2.imp ?_
      intro first second hdisjoint token hsecond hfirst
      exact hdisjoint hfirst hsecond
    · exact hapart.imp Kind.Apart.suffixes

theorem distinct_standard : standard.Distinct where
  modifiers := by decide +kernel
  kinds := by decide +kernel

/-! ### Looking up -/

theorem Distinct.resolve?_eq_some_iff (h : registry.Distinct) {token : String}
    {modifier : Modifier} :
    Modifier.resolve? registry.modifiers token = some modifier ↔
      modifier ∈ registry.modifiers ∧ token ∈ modifier.tokens := by
  have hpairwise := h.modifiers.imp (S := fun first second =>
    first.tokens.contains token = true → second.tokens.contains token = false)
    fun {first second} hapart hfirst => by
      rw [List.contains_iff_mem] at hfirst
      exact Bool.eq_false_iff.mpr fun hsecond =>
        hapart token (List.contains_iff_mem.mp hsecond) hfirst
  rw [Modifier.resolve?, find?_eq_some_iff_of_pairwise hpairwise, List.contains_iff_mem]

theorem Distinct.pairwise_suffix (h : registry.Distinct) (suffix : String) (type : SemanticType) :
    registry.kinds.Pairwise fun first second =>
      (first.suffixes.contains suffix && first.appliesTo type) = true →
        (second.suffixes.contains suffix && second.appliesTo type) = false := by
  refine h.kinds.imp fun {first second} hapart hfirst => ?_
  rw [Bool.and_eq_true, List.contains_iff_mem] at hfirst
  refine Bool.eq_false_iff.mpr fun hsecond => ?_
  rw [Bool.and_eq_true, List.contains_iff_mem] at hsecond
  exact Kind.overlaps_eq_false_iff.mp (hapart suffix hsecond.1 hfirst.1) type hfirst.2 hsecond.2

theorem Distinct.resolveSuffix?_eq_some_iff (h : registry.Distinct) {suffix : String}
    {type : SemanticType} {kind : Kind} :
    Kind.resolveSuffix? registry.kinds suffix type = some kind ↔
      kind ∈ registry.kinds ∧ suffix ∈ kind.suffixes ∧ kind.appliesTo type = true := by
  rw [Kind.resolveSuffix?, find?_eq_some_iff_of_pairwise (h.pairwise_suffix suffix type),
    Bool.and_eq_true, List.contains_iff_mem]

end Registry

end SearchFilter
