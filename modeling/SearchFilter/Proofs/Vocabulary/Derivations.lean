import SearchFilter.Proofs.Vocabulary.Canonical
/-!
# Derivations of names

A derivation says how a name comes about from the registry alone, without the look-ups: tokens that are names or aliases of modifiers, of which each takes the type that the one before it leads to, and a suffix of a kind that applies to the last type. Resolution is sound in that every name it accepts is enumerated or has a derivation, and the parts of the key are those of the derivation.

With the standard registry it is complete as well: a column has at most one derivation of a name, and the first column that has one decides.
-/

namespace SearchFilter

namespace Vocabulary

variable {registry : Registry} {source : SchemaSource} {vocabulary : Vocabulary}
  {entity name : String} {key : ConditionKey}

/-- The tokens are names or aliases of the modifiers, the types fit, and the kind has the suffix. -/
structure Reading.Derives (registry : Registry) (column : Column) (reading : Reading) : Prop where
  nonempty : reading.tokens ≠ []
  spells : Spells registry.modifiers column.type reading.tokens reading.modifiers reading.type
  mem : reading.kind ∈ registry.kinds
  suffix : reading.suffix ∈ reading.kind.suffixes
  applies : reading.kind.appliesTo reading.type = true

namespace Reading

variable {column : Column} {reading : Reading}

theorem Fits.derives (h : reading.Fits registry column) : reading.Derives registry column where
  nonempty := h.nonempty
  spells := h.reads.spells
  mem := h.mem_kinds
  suffix := h.mem_suffixes
  applies := h.applies

/-- Where the look-ups leave no choice, they find what the derivation uses. -/
theorem Derives.fits (hdistinct : registry.Distinct) (h : reading.Derives registry column) :
    reading.Fits registry column where
  nonempty := h.nonempty
  reads := h.spells.reads hdistinct
  kind := hdistinct.resolveSuffix?_eq_some_iff.mpr ⟨h.mem, h.suffix, h.applies⟩

end Reading

/-! ### Soundness -/

/-- The name is one of those of an enumerated key: of a kind without modifiers that applies to the column. -/
def Enumerates (registry : Registry) (columns : List ColumnRef) (name : String)
    (key : ConditionKey) : Prop :=
  ∃ column ∈ columns, ∃ kind ∈ registry.kinds, kind.appliesTo column.column.type = true ∧
    name ∈ kind.namesFor column.column ∧
      key = ConditionKey.ofParts column.column column.text [] kind column.column.type

variable {quote : String → String} {table : String} {columns : List Column}
  {relationships : List Relationship}

theorem Assembled.lookup_eq_some_iff_enumerates
    (h : vocabulary.Assembled registry quote table columns relationships) :
    vocabulary.names.lookup name = some key ↔ Enumerates registry vocabulary.columns name key := by
  rw [h.lookup_eq_some_iff]
  constructor
  · rintro ⟨⟨column, hcolumn, hkey⟩, hname⟩
    obtain ⟨kind, hkind, rfl⟩ := List.mem_map.mp hkey
    obtain ⟨hmem, happlies⟩ := List.mem_filter.mp hkind
    exact ⟨column, hcolumn, kind, hmem, happlies, hname, rfl⟩
  · rintro ⟨column, hcolumn, kind, hmem, happlies, hname, rfl⟩
    refine ⟨⟨column, hcolumn, List.mem_map.mpr ⟨kind, ?_, rfl⟩⟩, hname⟩
    exact List.mem_filter.mpr ⟨hmem, happlies⟩

/-- A name is enumerated, or it is that of a reading at some column which the search prefers. -/
theorem Assembled.enumerates_or_reading
    (h : vocabulary.Assembled registry quote table columns relationships)
    (hkey : vocabulary.resolve? name = some key) :
    Enumerates registry vocabulary.columns name key ∨
      ∃ column ∈ vocabulary.columns, ∃ reading : Reading, reading.Fits registry column.column ∧
        reading.spelling column.column.name = name ∧ key = reading.key column ∧
          Preferred registry.modifiers column.column.type reading.tokens := by
  rw [resolve?_eq, Option.or_eq_some_iff, h.lookup_eq_some_iff_enumerates, h.registry_eq] at hkey
  refine hkey.imp id fun ⟨_, hread⟩ => ?_
  obtain ⟨column, hcolumn, hread⟩ := List.exists_of_findSome?_eq_some hread
  exact ⟨column, hcolumn, exists_reading_of_readModified? hread⟩

/-- The type that the kind of a key sees is what its modifiers make of the type of its column. -/
theorem AssembledFrom.valueType_eq (h : vocabulary.AssembledFrom registry source)
    (hkey : vocabulary.resolve? name = some key) :
    key.valueType =
      key.modifiers.foldl (fun type modifier => modifier.returnType type) key.column.type := by
  obtain ⟨table, columns, _, _, hassembled⟩ := h
  rcases hassembled.enumerates_or_reading hkey with
    ⟨column, _, kind, _, _, _, rfl⟩ | ⟨column, _, reading, hfits, _, rfl, _⟩
  · rfl
  · exact hfits.reads.result_eq

theorem AssembledFrom.eq_of_parts (h : vocabulary.AssembledFrom registry source) {name' : String}
    {key' : ConditionKey} (hkey : vocabulary.resolve? name = some key)
    (hkey' : vocabulary.resolve? name' = some key') (hcolumn : key'.column = key.column)
    (hmodifiers : key'.modifiers = key.modifiers) (hkind : key'.kind = key.kind) : key' = key := by
  have hmade := h.madeFrom hkey
  have hmade' := h.madeFrom hkey'
  have hname : key'.name = key.name := by
    rw [hmade'.name, hmade.name, hcolumn, hmodifiers, hkind]
  have htype : key'.valueType = key.valueType := by
    rw [h.valueType_eq hkey', h.valueType_eq hkey, hcolumn, hmodifiers]
  have hmem' := hmade'.column
  rw [hcolumn] at hmem'
  have htext : key'.columnRef = key.columnRef := h.columnRef_eq hmem' hmade.column
  cases key
  cases key'
  simp_all

/-- What the key of a name is made of, and how it comes from the name. -/
structure Justifies (registry : Registry) (source : SchemaSource) (entity name : String)
    (key : ConditionKey) : Prop where
  column : ∃ table columns, source.tableName entity = some table ∧
    source.columns entity = some columns ∧ key.column ∈ columns ∧
      key.wrappedColumn = key.modifiers.foldl (fun text modifier => modifier.wrap text)
        (source.quote table ++ "." ++ source.quote key.column.name)
  canonical : key.name =
    "_".intercalate (key.column.name :: (key.modifiers.map (·.name) ++ [key.kind.name]))
  applies : key.kind ∈ registry.kinds ∧ key.kind.appliesTo key.valueType = true
  origin : (key.modifiers = [] ∧ key.valueType = key.column.type ∧
      name ∈ key.kind.namesFor key.column) ∨
    ∃ tokens suffix, tokens ≠ [] ∧ suffix ∈ key.kind.suffixes ∧
      Spells registry.modifiers key.column.type tokens key.modifiers key.valueType ∧
        name = "_".intercalate (key.column.name :: (tokens ++ [suffix]))

/-- Every name that resolves is enumerated or derived, and its key has the parts of the derivation. -/
theorem justifies_of_resolve? (hbuild : build registry source entity = .ok vocabulary)
    (hkey : vocabulary.resolve? name = some key) : Justifies registry source entity name key := by
  obtain ⟨rfl, table, columns, htable, hcolumns, h⟩ := assembledFrom_of_build hbuild
  have hmem : ∀ column ∈ vocabulary.columns, column.column ∈ columns ∧
      column.text = source.quote table ++ "." ++ source.quote column.column.name := by
    intro column hcolumn
    rw [h.columns_eq] at hcolumn
    obtain ⟨plain, hplain, rfl⟩ := List.mem_map.mp hcolumn
    exact ⟨hplain, rfl⟩
  rcases h.enumerates_or_reading hkey with
    ⟨column, hcolumn, kind, hkind, happlies, hname, rfl⟩ |
    ⟨column, hcolumn, reading, hfits, rfl, rfl, _⟩
  · obtain ⟨hplain, htext⟩ := hmem column hcolumn
    refine ⟨⟨table, columns, htable, hcolumns, hplain, htext⟩, Reading.name_ofParts _ _ _ _ _,
      ⟨hkind, happlies⟩, .inl ⟨rfl, rfl, hname⟩⟩
  · obtain ⟨hplain, htext⟩ := hmem column hcolumn
    have hwrapped : (reading.key column).wrappedColumn =
        reading.modifiers.foldl (fun text modifier => modifier.wrap text)
          (source.quote table ++ "." ++ source.quote column.column.name) := by
      rw [← htext]
      rfl
    exact ⟨⟨table, columns, htable, hcolumns, hplain, hwrapped⟩, Reading.name_ofParts _ _ _ _ _,
      ⟨hfits.mem_kinds, hfits.applies⟩, .inr ⟨reading.tokens, reading.suffix, hfits.nonempty,
        hfits.mem_suffixes, hfits.reads.spells, rfl⟩⟩

theorem exists_book : ∃ vocabulary,
    build Registry.standard (bookSchema .binary).source "Book" = .ok vocabulary ∧
      vocabulary.columns = bookColumns .binary ∧
      vocabulary.resolve? "title_length_equals" = some titleLength := by
  have htable : (bookSchema .binary).source.tableName "Book" = some "books" := by decide +kernel
  have hrefs : columnRefs Identifier.quote "books"
      [⟨"title_char", .binary⟩, ⟨"title", .text⟩] = bookColumns .binary := by decide +kernel
  obtain ⟨vocabulary, hbuild, hcolumns, hresolve⟩ := exists_build Registry.standard htable
    rfl hrefs (by decide +kernel) (by decide +kernel) (fun _ hmem => nomatch hmem)
    (by decide +kernel)
  refine ⟨vocabulary, hbuild, hcolumns, ?_⟩
  rw [hresolve _ (by decide +kernel)]
  decide +kernel

theorem justifies_of_resolve?_book : ∃ vocabulary,
    build Registry.standard (bookSchema .binary).source "Book" = .ok vocabulary ∧
      vocabulary.resolve? "title_length_equals" = some titleLength ∧
      Justifies Registry.standard (bookSchema .binary).source "Book" "title_length_equals"
        titleLength := by
  obtain ⟨vocabulary, hbuild, _, hkey⟩ := exists_book
  exact ⟨vocabulary, hbuild, hkey, justifies_of_resolve? hbuild hkey⟩

/-! ### Completeness -/

/-- A name resolves exactly if it is enumerated or some column has a reading of it that the search prefers. -/
theorem Assembled.resolve?_isSome_iff
    (h : vocabulary.Assembled registry quote table columns relationships) :
    (vocabulary.resolve? name).isSome = true ↔
      (∃ key, Enumerates registry vocabulary.columns name key) ∨
        ∃ column ∈ vocabulary.columns, ∃ reading : Reading,
          reading.Fits registry column.column ∧ reading.spelling column.column.name = name ∧
            Preferred registry.modifiers column.column.type reading.tokens := by
  constructor
  · intro hsome
    obtain ⟨key, hkey⟩ := Option.isSome_iff_exists.mp hsome
    rcases h.enumerates_or_reading hkey with henumerates |
      ⟨column, hcolumn, reading, hfits, hname, _, hpreferred⟩
    · exact .inl ⟨key, henumerates⟩
    · exact .inr ⟨column, hcolumn, reading, hfits, hname, hpreferred⟩
  · rintro (⟨key, henumerates⟩ | ⟨column, hcolumn, reading, hfits, rfl, hpreferred⟩)
    · rw [resolve?_eq, h.lookup_eq_some_iff_enumerates.mpr henumerates]
      rfl
    · have hread : (resolveModified? registry vocabulary.columns
          (reading.spelling column.column.name)).isSome = true :=
        List.findSome?_isSome_iff.mpr ⟨column, hcolumn, readModified?_isSome hfits hpreferred⟩
      rw [h.resolve?_of_read hread]
      exact hread

/-- With the standard registry a column has at most one derivation of a name. A name resolves exactly if it is enumerated or derived, to the enumerated key or by the first column that has a derivation. -/
theorem resolve?_of_unique_derivation :
    (∀ (column : Column) (reading other : Reading), reading.Derives Registry.standard column →
      other.Derives Registry.standard column →
      reading.spelling column.name = other.spelling column.name → reading = other) ∧
    ∀ (source : SchemaSource) (entity : String) (vocabulary : Vocabulary),
      build Registry.standard source entity = .ok vocabulary →
      (∃ table columns, source.tableName entity = some table ∧
        source.columns entity = some columns ∧
          vocabulary.columns = columnRefs source.quote table columns) ∧
      ∀ name : String,
        ((vocabulary.resolve? name).isSome = true ↔
          (∃ key, Enumerates Registry.standard vocabulary.columns name key) ∨
            ∃ column ∈ vocabulary.columns, ∃ reading : Reading,
              reading.Derives Registry.standard column.column ∧
                reading.spelling column.column.name = name) ∧
        (∀ key, Enumerates Registry.standard vocabulary.columns name key →
          vocabulary.resolve? name = some key) ∧
        ∀ (before : List ColumnRef) (column : ColumnRef) (after : List ColumnRef)
          (reading : Reading), vocabulary.columns = before ++ column :: after →
          reading.Derives Registry.standard column.column →
          reading.spelling column.column.name = name →
          (∀ earlier ∈ before, ∀ other : Reading, other.Derives Registry.standard earlier.column →
            other.spelling earlier.column.name ≠ name) →
          vocabulary.resolve? name = some (reading.key column) := by
  refine ⟨fun column reading other hreading hother hname => ?_, ?_⟩
  · exact (hreading.fits Registry.distinct_standard).unique Registry.readable_standard
      (hother.fits Registry.distinct_standard) hname
  intro source entity vocabulary hbuild
  obtain ⟨rfl, table, columns, htable, hcolumns, h⟩ := assembledFrom_of_build hbuild
  refine ⟨⟨table, columns, htable, hcolumns, h.columns_eq⟩, fun name => ⟨?_, ?_, ?_⟩⟩
  · rw [h.resolve?_isSome_iff]
    refine or_congr_right (exists_congr fun column => and_congr_right fun _ =>
      exists_congr fun reading => ?_)
    constructor
    · rintro ⟨hfits, hname, _⟩
      exact ⟨hfits.derives, hname⟩
    · rintro ⟨hderives, hname⟩
      have hfits := hderives.fits Registry.distinct_standard
      exact ⟨hfits, hname, hfits.preferred Registry.readable_standard⟩
  · intro key henumerates
    rw [resolve?_eq, h.lookup_eq_some_iff_enumerates.mpr henumerates]
    rfl
  · intro before column after reading hsplit hderives hname hfirst
    have hread : ReadFirst Registry.standard vocabulary.columns name column reading :=
      ⟨hderives.fits Registry.distinct_standard, hname, before, after, hsplit,
        fun earlier hmem other hfits => hfirst earlier hmem other hfits.derives⟩
    have heq := hread.resolveModified?_eq Registry.readable_standard
    rw [h.resolve?_of_read (by rw [heq]; rfl), heq]

def lengthReading : Reading :=
  ⟨["length"], "equals", titleLength.modifiers, Kind.equals, .integer⟩

/-- The earlier column has no derivation of this name, so the later one decides. -/
theorem resolve?_of_unique_derivation_book : ∃ vocabulary,
    build Registry.standard (bookSchema .binary).source "Book" = .ok vocabulary ∧
      lengthReading.Derives Registry.standard ⟨"title", .text⟩ ∧
      vocabulary.resolve? (lengthReading.spelling "title") = some titleLength := by
  obtain ⟨vocabulary, hbuild, hcolumns, _⟩ := exists_book
  have hderives : lengthReading.Derives Registry.standard ⟨"title", .text⟩ :=
    ⟨by decide, .cons (by decide +kernel) (by decide) (by decide) .nil, by decide +kernel,
      by decide, by decide⟩
  have hfirst : ∀ earlier ∈ [(⟨⟨"title_char", .binary⟩, "\"books\".\"title_char\""⟩ : ColumnRef)],
      ∀ other : Reading, other.Derives Registry.standard earlier.column →
        other.spelling earlier.column.name ≠ lengthReading.spelling "title" := by
    intro earlier hearlier other _ hname
    rw [List.mem_singleton.mp hearlier] at hname
    have hsegments := congrArg segmentsOf hname
    have hcolumn : segmentsOf "title_char" = ["title", "char"] := by decide +kernel
    have hgiven : segmentsOf (lengthReading.spelling "title") = ["title", "length", "equals"] := by
      decide +kernel
    rw [Reading.segmentsOf_spelling, hcolumn, hgiven] at hsegments
    simp at hsegments
  obtain ⟨_, _, hdecides⟩ := (resolve?_of_unique_derivation.2 _ _ _ hbuild).2
    (lengthReading.spelling "title")
  have hkey := hdecides _ ⟨⟨"title", .text⟩, "\"books\".\"title\""⟩ [] lengthReading hcolumns
    hderives rfl hfirst
  exact ⟨vocabulary, hbuild, hderives, hkey⟩

end Vocabulary

end SearchFilter
