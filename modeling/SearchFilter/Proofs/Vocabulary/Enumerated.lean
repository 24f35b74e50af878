import Mathlib.Data.List.Basic
import SearchFilter.Proofs.Lookup
import SearchFilter.Proofs.Text.Parts
import SearchFilter.Proofs.Vocabulary.Keys
/-!
# Enumerated names

The names of a vocabulary that was built are exactly the names of its enumerated keys, and no two keys share one. So looking up a name in the table answers whose name it is. No name in the table can be read with modifiers as well, and where a kind applies to every type no two columns have one name. The enumerated keys are one for each column and each kind that applies to it, so their names are listed column by column and each once.
-/

namespace SearchFilter

namespace Vocabulary

variable {registry : Registry} {vocabulary : Vocabulary} {keys : List ConditionKey}
  {names : List (String × ConditionKey)} {key : ConditionKey} {name : String}

/-! ### The table of names -/

/-- The names are those of the keys, and no two of the keys share one. -/
structure Lists (keys : List ConditionKey) (names : List (String × ConditionKey)) : Prop where
  lookup : ∀ name key, names.lookup name = some key ↔ key ∈ keys ∧ name ∈ namesOf key
  apart : keys.Pairwise fun first second => ∀ name ∈ namesOf first, name ∉ namesOf second

theorem addNames_eq_ok {entity : String} {names' : List (String × ConditionKey)}
    (h : addNames entity names key = .ok names') :
    names' = names ++ (namesOf key).map (fun name => (name, key)) ∧
      ∀ name ∈ namesOf key, names.lookup name = none := by
  unfold addNames at h
  split at h
  · cases h
  · rename_i hfree
    cases h
    refine ⟨rfl, fun name hname => ?_⟩
    simpa using List.findSome?_eq_none_iff.mp hfree name hname

theorem Lists.addNames (h : Lists keys names) {entity : String}
    {names' : List (String × ConditionKey)} (hadd : addNames entity names key = .ok names') :
    Lists (keys ++ [key]) names' := by
  obtain ⟨rfl, hfree⟩ := addNames_eq_ok hadd
  constructor
  · intro name other
    rw [lookup_append_names, Option.or_eq_some_iff, h.lookup, List.mem_append, List.mem_singleton]
    constructor
    · rintro (⟨hmem, hname⟩ | ⟨_, hnew⟩)
      · exact ⟨.inl hmem, hname⟩
      · obtain ⟨hname, heq⟩ := Option.ite_none_right_eq_some.mp hnew
        cases heq
        exact ⟨.inr rfl, hname⟩
    · rintro ⟨hmem | rfl, hname⟩
      · exact .inl ⟨hmem, hname⟩
      · exact .inr ⟨hfree name hname, if_pos hname⟩
  · rw [List.pairwise_append]
    refine ⟨h.apart, List.pairwise_singleton _ _, fun other hother new hnew name hname hmem => ?_⟩
    rw [List.mem_singleton.mp hnew] at hmem
    have htaken := (h.lookup name other).mpr ⟨hother, hname⟩
    rw [hfree name hmem] at htaken
    cases htaken

theorem lists_nil : Lists [] [] := ⟨fun _ _ => by simp, .nil⟩

theorem lists_of_foldlM {entity : String} (h : keys.foldlM (addNames entity) [] = .ok names) :
    Lists keys names := by
  have hend := Outcome.foldlM_invariant
    (fun rest names => ∃ done, done ++ rest = keys ∧ Lists done names)
    (fun key rest names names' hnames hadd => ?_) ⟨[], rfl, lists_nil⟩ h
  · obtain ⟨done, hdone, hlists⟩ := hend
    rw [List.append_nil] at hdone
    rw [← hdone]
    exact hlists
  · obtain ⟨done, hdone, hlists⟩ := hnames
    exact ⟨done ++ [key], by rw [List.append_assoc]; exact hdone, hlists.addNames hadd⟩

theorem Lists.lookup_eq_none_iff (h : Lists keys names) :
    names.lookup name = none ↔ ∀ key ∈ keys, name ∉ namesOf key := by
  simp only [Option.eq_none_iff_forall_ne_some, ne_eq, h.lookup, not_and]

/-- The names of a key are added exactly if it shares none with a key that is there. -/
theorem Lists.exists_addNames_iff (h : Lists keys names) (entity : String) (key : ConditionKey) :
    (∃ names', Vocabulary.addNames entity names key = .ok names') ↔
      ∀ other ∈ keys, ∀ name ∈ namesOf other, name ∉ namesOf key := by
  have hfree : (namesOf key).findSome? (fun name =>
      (names.lookup name).map fun other => (name, other)) = none ↔
      ∀ name ∈ namesOf key, ∀ other ∈ keys, name ∉ namesOf other := by
    simp only [List.findSome?_eq_none_iff, Option.map_eq_none_iff, h.lookup_eq_none_iff]
  unfold Vocabulary.addNames
  split
  · rename_i hshared
    rw [hshared] at hfree
    refine iff_of_false (fun ⟨_, hok⟩ => by cases hok) fun hapart => ?_
    exact Option.some_ne_none _ (hfree.mpr fun name hname other hother hmem =>
      hapart other hother name hmem hname)
  · rename_i hnone
    refine iff_of_true ⟨_, rfl⟩ fun other hother name hmem hname => ?_
    exact hfree.mp hnone name hname other hother hmem

/-- The table of names is built exactly if no two keys share a name. -/
theorem exists_foldlM_addNames_iff (entity : String) (keys : List ConditionKey) :
    (∃ names, keys.foldlM (addNames entity) [] = .ok names) ↔
      keys.Pairwise fun first second => ∀ name ∈ namesOf first, name ∉ namesOf second := by
  have hfold := Outcome.exists_foldlM_iff Lists (P := fun _ => True)
    (fun _ _ key h => (h.exists_addNames_iff entity key).trans (true_and _).symm.to_iff)
    (fun _ _ _ _ h hadd => h.addNames hadd) lists_nil keys
  rw [hfold]
  exact and_iff_right fun _ _ => trivial

variable {quote : String → String} {table : String} {columns : List Column}
  {relationships : List Relationship}

theorem Assembled.lists
    (h : vocabulary.Assembled registry quote table columns relationships) :
    Lists vocabulary.keys vocabulary.names :=
  lists_of_foldlM h.names_eq

theorem Assembled.lookup_eq_some_iff
    (h : vocabulary.Assembled registry quote table columns relationships) :
    vocabulary.names.lookup name = some key ↔
      (∃ column ∈ vocabulary.columns, key ∈ keysOf registry.kinds column) ∧ name ∈ namesOf key := by
  rw [h.lists.lookup, h.keys_eq, List.mem_flatMap]

/-! ### Names with modifiers -/

/-- The order of the names only decides which overlap is reported. -/
theorem overlap?_eq_none_iff {columns : List ColumnRef} :
    overlap? registry columns names = none ↔
      ∀ pair ∈ names, resolveModified? registry columns pair.1 = none := by
  simp only [overlap?, List.findSome?_eq_none_iff, Option.map_eq_none_iff,
    (Text.sortByKey_perm _ _).mem_iff]

theorem Assembled.lookup_eq_none
    (h : vocabulary.Assembled registry quote table columns relationships)
    (hread : (resolveModified? registry vocabulary.columns name).isSome = true) :
    vocabulary.names.lookup name = none := by
  by_contra hlookup
  obtain ⟨key, hkey⟩ := Option.ne_none_iff_exists'.mp hlookup
  have hfree := overlap?_eq_none_iff.mp h.noOverlap (name, key) (mem_of_lookup hkey)
  rw [hfree] at hread
  cases hread

theorem resolve?_eq (vocabulary : Vocabulary) (name : String) :
    vocabulary.resolve? name = (vocabulary.names.lookup name).or
      (resolveModified? vocabulary.registry vocabulary.columns name) := by
  unfold resolve?
  cases vocabulary.names.lookup name <;> rfl

theorem Assembled.resolve?_of_read
    (h : vocabulary.Assembled registry quote table columns relationships)
    (hread : (resolveModified? registry vocabulary.columns name).isSome = true) :
    vocabulary.resolve? name = resolveModified? registry vocabulary.columns name := by
  rw [resolve?_eq, h.lookup_eq_none hread, h.registry_eq, Option.none_or]

/-- A relationship has no enumerated name, so its name is at most one with modifiers. -/
theorem Assembled.resolve?_relationship
    (h : vocabulary.Assembled registry quote table columns relationships)
    {relationship : Relationship} (hmem : relationship ∈ vocabulary.relationships) :
    vocabulary.resolve? relationship.name =
      resolveModified? registry vocabulary.columns relationship.name := by
  rw [h.relationships_eq] at hmem
  rw [resolve?_eq, h.noClash relationship hmem, h.registry_eq, Option.none_or]

/-! ### Columns -/

/-- Where a kind applies to all types, columns have different names. -/
theorem Assembled.nodup_names
    (h : vocabulary.Assembled registry quote table columns relationships) {kind : Kind}
    (hkind : kind ∈ registry.kinds) (hall : ∀ type, kind.appliesTo type = true) :
    (vocabulary.columns.map (·.column.name)).Nodup := by
  have hkeys := h.lists.apart
  rw [h.keys_eq, List.pairwise_flatMap] at hkeys
  refine List.pairwise_map.mpr (hkeys.2.imp fun {first second} hapart hname => ?_)
  have hmem : ∀ column : ColumnRef,
      ConditionKey.ofParts column.column column.text [] kind column.column.type ∈
        keysOf registry.kinds column := fun column =>
    List.mem_map.mpr ⟨kind, List.mem_filter.mpr ⟨hkind, hall _⟩, rfl⟩
  refine hapart _ (hmem first) _ (hmem second) (kind.canonicalName first.column.name)
    List.mem_cons_self ?_
  rw [hname]
  exact List.mem_cons_self

/-! ### Vocabularies that are built -/

theorem lookup_eq_none_iff {β : Type} {pairs : List (String × β)} :
    pairs.lookup name = none ↔ name ∉ pairs.map (·.1) := by
  rw [List.lookup_eq_none_iff]
  simp only [bne_iff_ne, ne_eq, List.mem_map, not_exists, not_and]
  exact ⟨fun h pair hmem heq => h pair hmem heq.symm, fun h pair hmem heq => h pair hmem heq.symm⟩

def enumerated (registry : Registry) (columns : List ColumnRef) : List String :=
  (columns.flatMap (keysOf registry.kinds)).flatMap namesOf

theorem not_mem_enumerated_iff {refs : List ColumnRef} :
    name ∉ enumerated registry refs ↔
      ∀ key ∈ refs.flatMap (keysOf registry.kinds), name ∉ namesOf key := by
  simp only [enumerated, List.mem_flatMap (b := name), not_exists, not_and]

/-- A vocabulary is put together exactly if its names are valid and no two of them can be confused. -/
theorem exists_ofParts_iff (registry : Registry) (quote : String → String) (entity table : String)
    (columns : List Column) (relationships : List Relationship) :
    (∃ vocabulary, ofParts registry quote entity table columns relationships = .ok vocabulary) ↔
      invalidName? table columns relationships = none ∧
      ((columnRefs quote table columns).flatMap (keysOf registry.kinds)).Pairwise
        (fun first second => ∀ name ∈ namesOf first, name ∉ namesOf second) ∧
      (∀ relationship ∈ relationships,
        relationship.name ∉ enumerated registry (columnRefs quote table columns)) ∧
      ∀ name ∈ enumerated registry (columnRefs quote table columns),
        resolveModified? registry (columnRefs quote table columns) name = none := by
  constructor
  · rintro ⟨vocabulary, hbuilt⟩
    obtain ⟨_, h⟩ := assembled_of_ofParts hbuilt
    rw [← h.columns_eq]
    refine ⟨h.valid, ?_, fun relationship hmem => ?_, fun name hname => ?_⟩
    · rw [← h.keys_eq]
      exact h.lists.apart
    · rw [not_mem_enumerated_iff, ← h.keys_eq, ← h.lists.lookup_eq_none_iff]
      exact h.noClash relationship hmem
    · by_contra hread
      have hnone := h.lookup_eq_none (Option.isSome_iff_ne_none.mpr hread)
      rw [h.lists.lookup_eq_none_iff, h.keys_eq, ← not_mem_enumerated_iff] at hnone
      exact hnone hname
  · rintro ⟨hvalid, hapart, hclash, hfree⟩
    obtain ⟨names, hnames⟩ := (exists_foldlM_addNames_iff entity _).mpr hapart
    have hlists := lists_of_foldlM hnames
    have hclash' : relationships.find? (fun relationship =>
        (names.lookup relationship.name).isSome) = none := by
      refine List.find?_eq_none.mpr fun relationship hmem => ?_
      rw [hlists.lookup_eq_none_iff.mpr (not_mem_enumerated_iff.mp (hclash relationship hmem))]
      exact Bool.false_ne_true
    have hoverlap : overlap? registry (columnRefs quote table columns) names = none := by
      refine overlap?_eq_none_iff.mpr fun pair hmem => hfree pair.1 ?_
      by_contra hnot
      have hnone := hlists.lookup_eq_none_iff.mpr (not_mem_enumerated_iff.mp hnot)
      exact lookup_eq_none_iff.mp hnone (List.mem_map_of_mem hmem)
    exact ⟨_, by simp only [ofParts, hvalid, hnames, Outcome.ok_bind, hclash', hoverlap]; rfl⟩

variable (registry) in
/-- A vocabulary is built if its names are valid and no two of them can be confused. A name that is not enumerated is then read with modifiers. -/
theorem exists_build {source : SchemaSource} {entity : String} {refs : List ColumnRef}
    (htable : source.tableName entity = some table)
    (hcolumns : source.columns entity = some columns)
    (hrefs : columnRefs source.quote table columns = refs)
    (hvalid : invalidName? table columns ((source.relationships entity).getD []) = none)
    (hnames : (enumerated registry refs).Nodup)
    (hclash : ∀ relationship ∈ (source.relationships entity).getD [],
      relationship.name ∉ enumerated registry refs)
    (hfree : ∀ name ∈ enumerated registry refs, resolveModified? registry refs name = none) :
    ∃ vocabulary, build registry source entity = .ok vocabulary ∧ vocabulary.columns = refs ∧
      ∀ name ∉ enumerated registry refs,
        vocabulary.resolve? name = resolveModified? registry refs name := by
  subst hrefs
  have hapart := (List.pairwise_flatMap.mp hnames).2
  obtain ⟨vocabulary, hparts⟩ := (exists_ofParts_iff registry _ entity table columns _).mpr
    ⟨hvalid, hapart.imp fun h name hname hmem => h name hname name hmem rfl, hclash, hfree⟩
  obtain ⟨_, h⟩ := assembled_of_ofParts hparts
  refine ⟨vocabulary, by simp only [build, htable, hcolumns, hparts], h.columns_eq,
    fun name hname => ?_⟩
  rw [not_mem_enumerated_iff, ← h.columns_eq, ← h.keys_eq, ← h.lists.lookup_eq_none_iff] at hname
  rw [resolve?_eq, hname, Option.none_or, h.registry_eq, h.columns_eq]

/-! ### The conditions of a column -/

def plainKey (quote : String → String) (table : String) (column : Column) (kind : Kind) :
    ConditionKey where
  name := kind.canonicalName column.name
  column
  columnRef := quote table ++ "." ++ quote column.name
  modifiers := []
  kind
  valueType := column.type

theorem Assembled.keys_eq_flatMap
    (h : vocabulary.Assembled registry quote table columns relationships) :
    vocabulary.keys = columns.flatMap fun column =>
      (registry.kinds.filter fun kind => kind.appliesTo column.type).map
        (plainKey quote table column) := by
  rw [h.keys_eq, h.columns_eq, columnRefs, List.flatMap_map]
  rfl

/-- Every name of a kind for a column is that of the condition which they make. -/
theorem Assembled.resolve?_eq_plainKey
    (h : vocabulary.Assembled registry quote table columns relationships) {column : Column}
    (hcolumn : column ∈ columns) {kind : Kind} (hkind : kind ∈ registry.kinds)
    (happlies : kind.appliesTo column.type = true) (hname : name ∈ kind.namesFor column) :
    vocabulary.resolve? name = some (plainKey quote table column kind) := by
  have hkey : plainKey quote table column kind ∈ vocabulary.keys := by
    rw [h.keys_eq_flatMap, List.mem_flatMap]
    exact ⟨column, hcolumn, List.mem_map_of_mem (List.mem_filter.mpr ⟨hkind, happlies⟩)⟩
  rw [resolve?_eq, (h.lists.lookup name _).mpr ⟨hkey, hname⟩, Option.some_or]

theorem Assembled.conditionNames_eq
    (h : vocabulary.Assembled registry quote table columns relationships) :
    vocabulary.conditionNames = columns.flatMap fun column =>
      (registry.kinds.filter fun kind => kind.appliesTo column.type).map
        fun kind => kind.canonicalName column.name := by
  rw [conditionNames, h.keys_eq_flatMap, List.map_flatMap]
  simp only [List.map_map, Function.comp_def, plainKey]

/-- An enumerated key has its own name among its names, so the keys have different ones. -/
theorem Assembled.nodup_conditionNames
    (h : vocabulary.Assembled registry quote table columns relationships) :
    vocabulary.conditionNames.Nodup := by
  have hself : ∀ key ∈ vocabulary.keys, key.name ∈ namesOf key := by
    intro key hkey
    rw [h.keys_eq_flatMap] at hkey
    obtain ⟨column, _, hkey⟩ := List.mem_flatMap.mp hkey
    obtain ⟨kind, _, rfl⟩ := List.mem_map.mp hkey
    exact List.mem_cons_self
  refine List.pairwise_map.mpr (h.lists.apart.imp_of_mem fun hfirst hsecond hapart hsame => ?_)
  exact hapart _ (hself _ hfirst) (hsame ▸ hself _ hsecond)

theorem resolve?_of_enumerated {source : SchemaSource} {entity : String}
    (h : build registry source entity = .ok vocabulary) :
    ∃ table columns, source.tableName entity = some table ∧
      source.columns entity = some columns ∧
      (∀ column ∈ columns, ∀ kind ∈ registry.kinds, kind.appliesTo column.type = true →
        ∀ name ∈ kind.namesFor column,
          vocabulary.resolve? name = some (plainKey source.quote table column kind)) ∧
      vocabulary.conditionNames = columns.flatMap (fun column =>
        (registry.kinds.filter fun kind => kind.appliesTo column.type).map
          fun kind => kind.canonicalName column.name) ∧
      vocabulary.conditionNames.Nodup := by
  obtain ⟨rfl, table, columns, htable, hcolumns, hassembled⟩ := assembledFrom_of_build h
  refine ⟨table, columns, htable, hcolumns, ?_, hassembled.conditionNames_eq,
    hassembled.nodup_conditionNames⟩
  intro column hcolumn kind hkind happlies name hname
  exact hassembled.resolve?_eq_plainKey hcolumn hkind happlies hname

def draftSchema : Schema where
  definitions := [
    { name := "Draft", columns := [⟨"created_at", .temporal⟩, ⟨"created", .boolean⟩] }]

/-- The name `created_after` extends the name of the flag, and is a condition on the point in time. -/
theorem resolve?_of_enumerated_draft : ∃ vocabulary,
    build Registry.standard draftSchema.source "Draft" = .ok vocabulary ∧
      vocabulary.resolve? "created_after" = some
        (plainKey Identifier.quote "drafts" ⟨"created_at", .temporal⟩ Kind.greaterThan) ∧
      vocabulary.resolve? "created" = some
        (plainKey Identifier.quote "drafts" ⟨"created", .boolean⟩ Kind.equals) ∧
      vocabulary.conditionNames =
        ["created_at_equals", "created_at_does_not_equal", "created_at_greater_than",
          "created_at_greater_than_or_equal_to", "created_at_less_than",
          "created_at_less_than_or_equal_to", "created_at_is_null", "created_at_is_not_null",
          "created_at_in", "created_at_not_in", "created_at_between", "created_equals",
          "created_does_not_equal", "created_is_null", "created_is_not_null", "created_in",
          "created_not_in"] := by
  have htable : draftSchema.source.tableName "Draft" = some "drafts" := by decide +kernel
  have hcolumns : draftSchema.source.columns "Draft" =
      some [⟨"created_at", .temporal⟩, ⟨"created", .boolean⟩] := rfl
  obtain ⟨vocabulary, hbuild, -⟩ := exists_build Registry.standard htable hcolumns rfl
    (by decide +kernel) (by decide +kernel) (fun _ hmem => nomatch hmem) (by decide +kernel)
  obtain ⟨table, columns, htable', hcolumns', hresolve, hnames, -⟩ := resolve?_of_enumerated hbuild
  obtain rfl : "drafts" = table := Option.some.inj (htable.symm.trans htable')
  obtain rfl := Option.some.inj (hcolumns.symm.trans hcolumns')
  refine ⟨vocabulary, hbuild, ?_, ?_, hnames.trans (by decide +kernel)⟩
  · exact hresolve _ List.mem_cons_self _ (by decide) (by decide) _ (by decide +kernel)
  · exact hresolve _ (by decide) _ (by decide) (by decide) _ (by decide +kernel)

end Vocabulary

end SearchFilter
