import Mathlib.Data.List.Find
import SearchFilter.Proofs.Registry.Acceptance
import SearchFilter.Proofs.Text.Parts
/-!
# Names for columns

Registration compares suffixes, while the names of a kind for a column can also be the bare column or a shorter name for a point in time. These two rules are only those of standard kinds, and for the names they yield it does not matter what the column is called. A bare column is shorter than any name with a suffix. What replaces the ending `at` never begins with it, so a shorter name is no name with a suffix, either, although `created_after` may well be the name of another column.

So among kinds that were registered together at most one has a given name for a given column, and every name of a kind leads to it. A name with a suffix leads to the kind that the table has for the suffix.
-/

namespace SearchFilter

namespace Kind

variable {kind other : Kind} {column : Column} {name suffix : String}

/-! ### The names of a kind -/

theorem temporalStem?_eq_some_iff {column stem : String} :
    temporalStem? column = some stem ↔ stem ≠ "" ∧ column = stem ++ "_at" := by
  have hbefore : column = stem ++ "_at" ↔
      List.isSuffixOf? ['_', 'a', 't'] column.toList = some stem.toList := by
    rw [List.isSuffixOf?_eq_some_iff_append_eq, ← String.toList_inj, eq_comm, String.toList_append]
    rfl
  rw [hbefore, temporalStem?]
  cases List.isSuffixOf? ['_', 'a', 't'] column.toList with
  | none => simp
  | some before =>
    cases before with
    | nil =>
      refine iff_of_false (by simp) fun ⟨hne, h⟩ => hne ?_
      exact String.toList_eq_nil_iff.mp (Option.some.inj h).symm
    | cons c rest =>
      have hne : c :: rest = stem.toList → stem ≠ "" := by
        rintro h rfl
        cases h
      rw [Option.some.injEq, Option.some.injEq]
      constructor
      · rintro rfl
        simp
      · intro ⟨_, h⟩
        rw [h, String.ofList_toList]

theorem temporalName?_eq_some_iff :
    kind.temporalName? column = some name ↔ ∃ replacement stem,
      kind.temporalAlias = some replacement ∧ column.type = .temporal ∧ stem ≠ "" ∧
        column.name = stem ++ "_at" ∧ name = stem ++ "_" ++ replacement := by
  rw [temporalName?]
  cases kind.temporalAlias with
  | none => simp
  | some replacement =>
    by_cases htype : column.type = .temporal
    · simp only [htype, if_true, Option.map_eq_some_iff, temporalStem?_eq_some_iff]
      constructor
      · intro ⟨stem, ⟨hne, hcolumn⟩, hname⟩
        exact ⟨replacement, stem, rfl, trivial, hne, hcolumn, hname.symm⟩
      · intro ⟨_, stem, hsame, _, hne, hcolumn, hname⟩
        cases hsame
        exact ⟨stem, ⟨hne, hcolumn⟩, hname.symm⟩
    · simp [htype]

/-- A name for a column is made of a suffix, or it is made by one of the two rules. -/
theorem mem_namesFor_iff : name ∈ kind.namesFor column ↔
    (∃ suffix ∈ kind.suffixes, name = column.name ++ "_" ++ suffix) ∨
      kind.bare = true ∧ name = column.name ∨ kind.temporalName? column = some name := by
  rw [namesFor, aliasesFor, suffixes, canonicalName]
  by_cases hbare : kind.bare
  · simp [hbare, eq_comm, or_assoc, or_left_comm]
  · simp [hbare, eq_comm, or_assoc]

/-! ### Kinds that follow the rules -/

/-- The kind is a standard one, or it names columns by its suffixes alone. -/
def Conventional (kind : Kind) : Prop :=
  kind ∈ standard ∨ kind.bare = false ∧ kind.temporalAlias = none

theorem Conventional.eq_equals (h : kind.Conventional) (hbare : kind.bare = true) :
    kind = equals := by
  have hstandard : ∀ kind ∈ standard, kind.bare = true → kind = equals := by decide +kernel
  rcases h with hmem | ⟨hplain, _⟩
  · exact hstandard kind hmem hbare
  · rw [hplain] at hbare
    cases hbare

theorem Conventional.temporalAlias_cases (h : kind.Conventional) {replacement : String}
    (halias : kind.temporalAlias = some replacement) :
    kind = greaterThan ∧ replacement = "after" ∨ kind = lessThan ∧ replacement = "before" := by
  have hstandard : ∀ kind ∈ standard,
      kind.temporalAlias = none ∨ kind = greaterThan ∨ kind = lessThan := by decide +kernel
  have hcases : kind.temporalAlias = none ∨ kind = greaterThan ∨ kind = lessThan := by
    rcases h with hmem | ⟨_, hplain⟩
    · exact hstandard kind hmem
    · exact .inl hplain
  rcases hcases with hnone | rfl | rfl
  · rw [hnone] at halias
    cases halias
  · cases halias
    exact .inl ⟨rfl, rfl⟩
  · cases halias
    exact .inr ⟨rfl, rfl⟩

/-- Replacing the ending of a column does not extend the column. -/
theorem Conventional.temporalName?_ne (h : kind.Conventional) (rest : String) :
    kind.temporalName? column ≠ some (column.name ++ rest) := by
  intro htemporal
  obtain ⟨replacement, stem, halias, _, _, hcolumn, hname⟩ := temporalName?_eq_some_iff.mp htemporal
  rw [hcolumn, ← String.toList_inj] at hname
  rcases h.temporalAlias_cases halias with ⟨_, rfl⟩ | ⟨_, rfl⟩
  · simp at hname
  · simp at hname

theorem Conventional.mem_namesFor_suffix_iff (h : kind.Conventional) :
    column.name ++ "_" ++ suffix ∈ kind.namesFor column ↔ suffix ∈ kind.suffixes := by
  rw [mem_namesFor_iff]
  constructor
  · rintro (⟨other, hother, heq⟩ | ⟨_, heq⟩ | htemporal)
    · rwa [(String.append_right_inj _).mp heq]
    · have hlength := congrArg String.length heq
      have hunderscore : "_".length = 1 := rfl
      simp only [String.length_append] at hlength
      omega
    · rw [String.append_assoc] at htemporal
      exact absurd htemporal (h.temporalName?_ne _)
  · intro hsuffix
    exact .inl ⟨suffix, hsuffix, rfl⟩

/-- Two kinds with a common name for a column are the same kind, or they have a common suffix. -/
theorem Conventional.eq_or_suffix (h : kind.Conventional) (hother : other.Conventional)
    (hname : name ∈ kind.namesFor column) (hname' : name ∈ other.namesFor column) :
    kind = other ∨ ∃ suffix ∈ kind.suffixes, suffix ∈ other.suffixes := by
  rcases mem_namesFor_iff.mp hname with ⟨suffix, hsuffix, rfl⟩ | hrule
  · exact .inr ⟨suffix, hsuffix, hother.mem_namesFor_suffix_iff.mp hname'⟩
  rcases mem_namesFor_iff.mp hname' with ⟨suffix, hsuffix, rfl⟩ | hrule'
  · exact .inr ⟨suffix, h.mem_namesFor_suffix_iff.mp hname, hsuffix⟩
  -- both names come from one of the two rules, and those have different results
  refine .inl ?_
  rcases hrule with ⟨hbare, rfl⟩ | htemporal <;> rcases hrule' with ⟨hbare', hsame⟩ | htemporal'
  · rw [h.eq_equals hbare, hother.eq_equals hbare']
  · exact absurd (by simpa using htemporal') (hother.temporalName?_ne "")
  · exact absurd (by simpa [hsame] using htemporal) (h.temporalName?_ne "")
  · obtain ⟨first, stem, hfirst, _, _, hcolumn, hname⟩ := temporalName?_eq_some_iff.mp htemporal
    obtain ⟨second, stem', hsecond, _, _, hcolumn', hname'⟩ :=
      temporalName?_eq_some_iff.mp htemporal'
    have hstem : stem = stem' := (String.append_left_inj _).mp (hcolumn.symm.trans hcolumn')
    subst hstem
    have hsame : first = second := (String.append_right_inj _).mp (hname.symm.trans hname')
    rw [hsame] at hfirst
    rcases h.temporalAlias_cases hfirst with ⟨rfl, rfl⟩ | ⟨rfl, rfl⟩
    · exact ((hother.temporalAlias_cases hsecond).resolve_right (by simp)).1.symm
    · exact ((hother.temporalAlias_cases hsecond).resolve_left (by simp)).1.symm

/-! ### Registered kinds -/

section

variable {kinds : List Kind} (hconventional : ∀ kind ∈ kinds, kind.Conventional)

include hconventional

theorem resolve?_eq_some_iff (hapart : kinds.Pairwise Apart) :
    resolve? kinds column name = some kind ↔
      kind ∈ kinds ∧ kind.appliesTo column.type = true ∧ name ∈ kind.namesFor column := by
  have hpairwise : kinds.Pairwise fun first second =>
      (first.appliesTo column.type && (first.namesFor column).contains name) = true →
        (second.appliesTo column.type && (second.namesFor column).contains name) = false := by
    refine hapart.imp_of_mem fun {first second} hfirst hsecond hboth hfits => ?_
    rw [Bool.and_eq_true, List.contains_iff_mem] at hfits
    refine Bool.eq_false_iff.mpr fun hfits' => ?_
    rw [Bool.and_eq_true, List.contains_iff_mem] at hfits'
    rcases (hconventional first hfirst).eq_or_suffix (hconventional second hsecond)
      hfits.2 hfits'.2 with rfl | ⟨suffix, hsuffix, hsuffix'⟩
    · exact hboth.names rfl
    · exact overlaps_eq_false_iff.mp (hboth.suffixes suffix hsuffix' hsuffix) column.type
        hfits.1 hfits'.1
  rw [resolve?, find?_eq_some_iff_of_pairwise hpairwise, Bool.and_eq_true, List.contains_iff_mem]

theorem resolveSuffix?_eq_resolve? (suffix column : String) (type : SemanticType) :
    resolveSuffix? kinds suffix type = resolve? kinds ⟨column, type⟩ (column ++ "_" ++ suffix) := by
  refine List.find?_congr fun kind hkind => ?_
  rw [Bool.eq_iff_iff, Bool.and_eq_true, Bool.and_eq_true, List.contains_iff_mem,
    List.contains_iff_mem, and_comm]
  exact and_congr_right fun _ => (hconventional kind hkind).mem_namesFor_suffix_iff.symm

end

/-! ### Main results -/

namespace Index

variable {given : List Kind} {index : Index}

theorem kinds_of_foldlM (h : given.foldlM register {} = .ok index) :
    index.kinds = given ∧ given.Pairwise Apart := by
  have hkinds := foldlM_register_kinds given
  rw [h, Outcome.map_ok] at hkinds
  exact foldlM_register_eq_ok_iff.mp hkinds.symm

/-- After any registrations the kinds answer to all their names, and tables and names agree. -/
theorem resolve?_of_registered (hconventional : ∀ kind ∈ given, kind.Conventional)
    (h : given.foldlM register {} = .ok index) :
    (∀ column, ∀ kind ∈ index.kinds, kind.appliesTo column.type = true →
      ∀ name ∈ kind.namesFor column, resolve? index.kinds column name = some kind) ∧
    ∀ suffix type column, index.resolveSuffix? suffix type =
      resolve? index.kinds ⟨column, type⟩ (column ++ "_" ++ suffix) := by
  obtain ⟨hkinds, hapart⟩ := kinds_of_foldlM h
  rw [← hkinds] at hconventional hapart
  constructor
  · intro column kind hkind happlies name hname
    exact (resolve?_eq_some_iff hconventional hapart).mpr ⟨hkind, happlies, hname⟩
  · intro suffix type column
    rw [(sound_of_foldlM h).resolveSuffix?_eq]
    exact resolveSuffix?_eq_resolve? hconventional suffix column type

/-- The columns `created_at` and `created` have a name in common, and it leads to the same kind for both of them. -/
theorem resolve?_of_registered_matching :
    ∃ index, (standard ++ [matching]).foldlM register {} = .ok index ∧
      resolve? index.kinds ⟨"created_at", .temporal⟩ "created_after" = some greaterThan ∧
      resolve? index.kinds ⟨"created", .temporal⟩ "created_after" = some greaterThan ∧
      resolve? index.kinds ⟨"payload", .binary⟩ "payload_like" = some matching ∧
      index.resolveSuffix? "like" .binary = some matching := by
  obtain ⟨index, hindex⟩ : ∃ index, (standard ++ [matching]).foldlM register {} = .ok index :=
    Outcome.exists_of_isOk (by decide +kernel)
  have hconventional : ∀ kind ∈ standard ++ [matching], kind.Conventional := by
    intro kind hkind
    rcases List.mem_append.mp hkind with hstandard | hmatching
    · exact .inl hstandard
    · obtain rfl := List.mem_singleton.mp hmatching
      exact .inr ⟨rfl, rfl⟩
  obtain ⟨hnames, hsuffixes⟩ := resolve?_of_registered hconventional hindex
  have hkinds := (kinds_of_foldlM hindex).1
  rw [hkinds] at hnames hsuffixes
  have hpayload := hnames ⟨"payload", .binary⟩ matching (by decide) (by decide) "payload_like"
    (by decide +kernel)
  refine ⟨index, hindex, ?_⟩
  rw [hkinds]
  refine ⟨?_, ?_, hpayload, (hsuffixes "like" .binary "payload").trans hpayload⟩
  · exact hnames _ greaterThan (by decide) (by decide) _ (by decide +kernel)
  · exact hnames _ greaterThan (by decide) (by decide) _ (by decide +kernel)

end Index

end Kind

end SearchFilter
