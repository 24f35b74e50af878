import SearchFilter.Proofs.Vocabulary.Derivations
/-!
# Where the grouping is chosen too early

Segments can be grouped into tokens in several ways: `sort_key` is one token, or `sort` and `key`. The search settles on one grouping of the segments in front of a suffix and only then looks for a kind with the suffix. If the grouping leads to a type at which no kind has it, a name does not resolve, although another grouping of the same segments may lead to a type at which one does. In a registry that was built this is the only way in which a derived name is missed.
-/

namespace SearchFilter

namespace Vocabulary

variable {kinds : List Kind} {modifiers : List Modifier} {registry : Registry}
  {source : SchemaSource} {vocabulary : Vocabulary} {entity name : String}

/-- A name resolves exactly if it is enumerated or derived with preferred tokens. Where a derived name does not resolve, the tokens that are preferred lead to a type at which no kind has the suffix. -/
theorem resolve?_isSome_iff_preferred (hregistry : Registry.build kinds modifiers = .ok registry)
    (hbuild : build registry source entity = .ok vocabulary) :
    ((vocabulary.resolve? name).isSome = true ↔
      (∃ key, Enumerates registry vocabulary.columns name key) ∨
        ∃ column ∈ vocabulary.columns, ∃ reading : Reading,
          reading.Derives registry column.column ∧ reading.spelling column.column.name = name ∧
            Preferred registry.modifiers column.column.type reading.tokens) ∧
    (vocabulary.resolve? name = none → ∀ column ∈ vocabulary.columns, ∀ reading : Reading,
      reading.Derives registry column.column → reading.spelling column.column.name = name →
      ∃ tokens chain type, Spells registry.modifiers column.column.type tokens chain type ∧
        tokens.flatMap segmentsOf = reading.tokens.flatMap segmentsOf ∧
          Longer tokens reading.tokens ∧
            ∀ kind ∈ registry.kinds, reading.suffix ∈ kind.suffixes →
              kind.appliesTo type = false) := by
  have hdistinct := Registry.distinct_of_build hregistry
  obtain ⟨rfl, table, columns, _, _, h⟩ := assembledFrom_of_build hbuild
  have hsome : (vocabulary.resolve? name).isSome = true ↔
      (∃ key, Enumerates registry vocabulary.columns name key) ∨
        ∃ column ∈ vocabulary.columns, ∃ reading : Reading,
          reading.Derives registry column.column ∧ reading.spelling column.column.name = name ∧
            Preferred registry.modifiers column.column.type reading.tokens := by
    rw [h.resolve?_isSome_iff]
    refine or_congr_right (exists_congr fun column => and_congr_right fun _ =>
      exists_congr fun reading => and_congr_left fun _ => ?_)
    exact ⟨Reading.Fits.derives, Reading.Derives.fits hdistinct⟩
  refine ⟨hsome, fun hnone column hcolumn reading hderives hname => ?_⟩
  obtain ⟨tokens, chain, type, hreads, hsame, hpreferred⟩ :=
    (hderives.spells.reads hdistinct).exists_preferred
  -- a kind with the suffix at this type would make a derivation with preferred tokens
  have hunfit : ∀ kind ∈ registry.kinds, reading.suffix ∈ kind.suffixes →
      kind.appliesTo type = false := by
    intro kind hkind hsuffix
    by_contra happlies
    rw [Bool.not_eq_false] at happlies
    have hnonempty : tokens ≠ [] := by
      rintro rfl
      exact hderives.nonempty (eq_nil_of_flatMap_segmentsOf hsame.symm)
    have hspelling : (⟨tokens, reading.suffix, chain, kind, type⟩ : Reading).spelling
        column.column.name = name := by
      apply segmentsOf_injective
      rw [← hname, Reading.segmentsOf_spelling, Reading.segmentsOf_spelling, hsame]
    have hresolves := hsome.mpr (.inr ⟨column, hcolumn, ⟨tokens, reading.suffix, chain, kind, type⟩,
      ⟨hnonempty, hreads.spells, hkind, hsuffix, happlies⟩, hspelling, hpreferred⟩)
    rw [hnone] at hresolves
    cases hresolves
  refine ⟨tokens, chain, type, hreads.spells, hsame, ?_, hunfit⟩
  have hreads' := hderives.spells.reads hdistinct
  rcases hpreferred _ _ _ hreads' hsame.symm with heq | hlonger
  · -- the same tokens lead to the same type, at which the kind of the derivation applies
    rw [heq] at hreads'
    obtain ⟨_, htype⟩ := hreads.unique hreads'
    have happlies := hunfit reading.kind hderives.mem hderives.suffix
    rw [htype, hderives.applies] at happlies
    cases happlies
  · exact hlonger

/-! ### A token made of two others -/

def sortModifiers : List Modifier :=
  [Modifier.textFunction "sort" [] "SORT", Modifier.textFunction "key" [] "KEY",
    Modifier.textFunction "sort_key" [] "SORT_KEY" none (some .integer)]

def sortRegistry : Registry := ⟨Kind.standard, Modifier.standard ++ sortModifiers⟩

theorem build_sortRegistry :
    Registry.build Kind.standard (Modifier.standard ++ sortModifiers) = .ok sortRegistry :=
  Outcome.toOption_eq_some_iff.mp (by decide +kernel)

def titleSchema : Schema where
  definitions := [{ name := "Book", columns := [⟨"title", .text⟩] }]

def titleColumn : ColumnRef := ⟨⟨"title", .text⟩, "\"books\".\"title\""⟩

def sortReading : Reading :=
  ⟨["sort", "key"], "contains", sortModifiers.take 2, Kind.contains, .text⟩

theorem derives_sortReading : sortReading.Derives sortRegistry titleColumn.column :=
  ⟨by decide, .cons (by decide +kernel) (by decide) (by decide)
    (.cons (by decide +kernel) (by decide) (by decide) .nil), by decide +kernel, by decide,
    by decide⟩

/-- The longer token leads to a number, which contains nothing. -/
theorem exists_sortVocabulary : ∃ vocabulary,
    build sortRegistry titleSchema.source "Book" = .ok vocabulary ∧
      titleColumn ∈ vocabulary.columns ∧
      vocabulary.resolve? (sortReading.spelling "title") = none := by
  have htable : titleSchema.source.tableName "Book" = some "books" := by decide +kernel
  have hrefs : columnRefs Identifier.quote "books" [⟨"title", .text⟩] = [titleColumn] := by
    decide +kernel
  obtain ⟨vocabulary, hbuild, hcolumns, hresolve⟩ := exists_build sortRegistry htable rfl hrefs
    (by decide +kernel) (by decide +kernel) (fun _ hmem => nomatch hmem) (by decide +kernel)
  refine ⟨vocabulary, hbuild, by rw [hcolumns]; exact List.mem_singleton_self _, ?_⟩
  rw [hresolve _ (by decide +kernel)]
  decide +kernel

theorem resolve?_isSome_iff_preferred_title : ∃ vocabulary,
    build sortRegistry titleSchema.source "Book" = .ok vocabulary ∧
      vocabulary.resolve? (sortReading.spelling "title") = none ∧
      ∃ tokens chain type, Spells sortRegistry.modifiers .text tokens chain type ∧
        tokens.flatMap segmentsOf = ["sort", "key"].flatMap segmentsOf ∧
          Longer tokens ["sort", "key"] ∧
            ∀ kind ∈ sortRegistry.kinds, "contains" ∈ kind.suffixes →
              kind.appliesTo type = false := by
  obtain ⟨vocabulary, hbuild, hmem, hnone⟩ := exists_sortVocabulary
  exact ⟨vocabulary, hbuild, hnone, (resolve?_isSome_iff_preferred build_sortRegistry hbuild).2
    hnone titleColumn hmem sortReading derives_sortReading rfl⟩

/-- A derived name does not always resolve. -/
theorem not_forall_resolve?_of_derives : ¬ ∀ (kinds : List Kind) (modifiers : List Modifier)
    (registry : Registry) (source : SchemaSource) (entity : String) (vocabulary : Vocabulary)
    (column : ColumnRef) (reading : Reading),
    Registry.build kinds modifiers = .ok registry →
    build registry source entity = .ok vocabulary → column ∈ vocabulary.columns →
    reading.Derives registry column.column →
    (vocabulary.resolve? (reading.spelling column.column.name)).isSome = true := by
  intro hall
  obtain ⟨vocabulary, hbuild, hmem, hnone⟩ := exists_sortVocabulary
  have hsome := hall _ _ _ _ _ vocabulary titleColumn sortReading build_sortRegistry hbuild hmem
    derives_sortReading
  have hname : sortReading.spelling titleColumn.column.name = sortReading.spelling "title" := rfl
  rw [hname, hnone] at hsome
  cases hsome

end Vocabulary

end SearchFilter
