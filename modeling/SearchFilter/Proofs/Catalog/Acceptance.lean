import Mathlib.Data.List.Nodup
import SearchFilter.Proofs.Catalog.Policies
import SearchFilter.Proofs.Vocabulary.Admissible
/-!
# Which inputs make a catalog

A catalog is built exactly from the inputs described by `Acceptable`: every entity occurs once and is admissible, every relationship leads to an entity of the schema, and the lists that count for an entity are about an entity of the schema and hold names that are known there. Both loops of the building are folds, so each direction is a matter of what a single step admits.

The lists enter the catalog through what their entries stand for and in no other way: lists in another spelling make the same catalog.
-/

namespace SearchFilter

namespace Catalog

variable {registry : Registry} {source : SchemaSource} {policies : List PolicyLists}
  {vocabularies vocabularies' : List Vocabulary} {vocabulary : Vocabulary} {lists : PolicyLists}
  {entity entry : String}

/-- An entry of a list is known for the entity: it is a relationship, one of the names without modifiers, or read with modifiers. -/
def Knows (registry : Registry) (source : SchemaSource) (entity entry : String) : Prop :=
  (∃ relationship ∈ (source.relationships entity).getD [], relationship.name = entry) ∨
  ∃ table columns, source.tableName entity = some table ∧ source.columns entity = some columns ∧
    ((∃ condition ∈ Vocabulary.plainConditions registry.kinds columns,
        entry ∈ Vocabulary.plainNames condition) ∨
      (Vocabulary.resolveModified? registry (Vocabulary.columnRefs source.quote table columns)
        entry).isSome = true)

/-- What is required of a registry, a schema and the lists of policies. -/
structure Acceptable (registry : Registry) (source : SchemaSource) (policies : List PolicyLists) :
    Prop where
  entities : source.entities.Nodup
  admissible : ∀ entity ∈ source.entities, ∃ table columns,
    source.tableName entity = some table ∧ source.columns entity = some columns ∧
    Vocabulary.Admissible registry source.quote table columns
      ((source.relationships entity).getD [])
  targets : ∀ entity ∈ source.entities, ∀ relationship ∈ (source.relationships entity).getD [],
    relationship.entity ∈ source.entities
  policies : ∀ entity names,
    PolicyLists.accessibleFor policies entity = some names ∨
      PolicyLists.deniedFor policies entity = some names →
    entity ∈ source.entities ∧ ∀ entry ∈ names, Knows registry source entity entry

/-! ### Entities -/

/-- An entity can be added if it was not added before, can be built by itself and has its relationships inside the schema. -/
theorem exists_addEntity_iff :
    (∃ vocabularies', addEntity registry source vocabularies entity = .ok vocabularies') ↔
      ((∃ vocabulary, Vocabulary.build registry source entity = .ok vocabulary) ∧
        ∀ relationship ∈ (source.relationships entity).getD [],
          relationship.entity ∈ source.entities) ∧
      ∀ other ∈ vocabularies.map (·.entity), other ≠ entity := by
  simp only [addEntity_eq_ok_iff]
  constructor
  · rintro ⟨_, hnew, vocabulary, hbuild, htargets, _⟩
    obtain ⟨rfl, _, _, _, _, hassembled⟩ := Vocabulary.assembledFrom_of_build hbuild
    rw [hassembled.relationships_eq] at htargets
    exact ⟨⟨⟨vocabulary, hbuild⟩, htargets⟩, fun other hother heq => hnew (heq ▸ hother)⟩
  · rintro ⟨⟨⟨vocabulary, hbuild⟩, htargets⟩, hnew⟩
    obtain ⟨rfl, _, _, _, _, hassembled⟩ := Vocabulary.assembledFrom_of_build hbuild
    rw [← hassembled.relationships_eq] at htargets
    exact ⟨_, fun hmem => hnew _ hmem rfl, vocabulary, hbuild, htargets, rfl⟩

theorem exists_addEntity_fold_iff (registry : Registry) (source : SchemaSource)
    (entities : List String) :
    (∃ vocabularies, entities.foldlM (addEntity registry source) [] = .ok vocabularies) ↔
      (∀ entity ∈ entities,
        (∃ vocabulary, Vocabulary.build registry source entity = .ok vocabulary) ∧
        ∀ relationship ∈ (source.relationships entity).getD [],
          relationship.entity ∈ source.entities) ∧
      entities.Nodup := by
  refine Outcome.exists_foldlM_iff
    (fun done (vocabularies : List Vocabulary) => vocabularies.map (·.entity) = done)
    (fun done vocabularies entity hdone => hdone ▸ exists_addEntity_iff)
    (fun done entity vocabularies vocabularies' hdone hadd => ?_) rfl entities
  obtain ⟨vocabulary, rfl, rfl, _⟩ := addEntity_eq_ok hadd
  rw [List.map_append, hdone]
  rfl

/-! ### Policies -/

/-- The vocabulary knows the entries of the lists. Lists that are missing ask for nothing. -/
def Accepts (vocabularies : List Vocabulary) (lists : PolicyLists) : Prop :=
  ∀ names, lists.accessible = some names ∨ lists.denied = some names →
    ∃ vocabulary, vocabularies.find? (fun vocabulary => vocabulary.entity == lists.entity) =
        some vocabulary ∧
      ∀ entry ∈ names, (vocabulary.entryName? entry).isSome = true

theorem exists_given_iff :
    (∃ names, lists.accessible = some names ∨ lists.denied = some names) ↔
      ¬(lists.accessible = none ∧ lists.denied = none) := by
  rw [exists_or, ← Option.isSome_iff_exists, ← Option.isSome_iff_exists, not_and_or,
    Option.isSome_iff_ne_none, Option.isSome_iff_ne_none]

theorem exists_addPolicy_iff :
    (∃ vocabularies', addPolicy vocabularies lists = .ok vocabularies') ↔
      Accepts vocabularies lists := by
  simp only [addPolicy_eq_ok_iff]
  constructor
  · rintro ⟨_, ⟨⟨hnone, hnone'⟩, _⟩ | ⟨_, vocabulary, accessible, denied, hfound, hok, hok', _⟩⟩
    · intro names hnames
      rw [hnone, hnone'] at hnames
      simp at hnames
    · intro names hnames
      refine ⟨vocabulary, hfound, ?_⟩
      rcases hnames with hnames | hnames
      · exact PolicyLists.exists_canonicalOptional_iff.mp ⟨_, hok⟩ names hnames
      · exact PolicyLists.exists_canonicalOptional_iff.mp ⟨_, hok'⟩ names hnames
  · intro haccepts
    by_cases hnone : lists.accessible = none ∧ lists.denied = none
    · exact ⟨_, .inl ⟨hnone, rfl⟩⟩
    · obtain ⟨names, hnames⟩ := exists_given_iff.mpr hnone
      obtain ⟨vocabulary, hfound, _⟩ := haccepts names hnames
      have hentries : ∀ names, lists.accessible = some names ∨ lists.denied = some names →
          ∀ entry ∈ names, (vocabulary.entryName? entry).isSome = true := by
        intro names hnames
        obtain ⟨other, hother, hentries⟩ := haccepts names hnames
        rw [hfound] at hother
        cases hother
        exact hentries
      obtain ⟨accessible, hok⟩ := PolicyLists.exists_canonicalOptional_iff.mpr
        fun names hnames => hentries names (.inl hnames)
      obtain ⟨denied, hok'⟩ := PolicyLists.exists_canonicalOptional_iff.mpr
        fun names hnames => hentries names (.inr hnames)
      exact ⟨_, .inr ⟨hnone, vocabulary, accessible, denied, hfound, hok, hok', rfl⟩⟩

theorem accepts_of_addPolicy {other : PolicyLists}
    (hadd : addPolicy vocabularies other = .ok vocabularies') :
    Accepts vocabularies' lists ↔ Accepts vocabularies lists := by
  rcases addPolicy_eq_ok_iff.mp hadd with ⟨_, rfl⟩ | ⟨_, _, _, _, _, _, _, rfl⟩
  · rfl
  · have hsame : ∀ (policy : Policy) (vocabulary : Vocabulary),
        (givePolicy other.entity policy vocabulary).entryName? = vocabulary.entryName? := by
      intro policy vocabulary
      unfold givePolicy
      split <;> rfl
    refine forall_congr' fun names => imp_congr_right fun _ => ?_
    rw [find?_givePolicy]
    cases vocabularies.find? fun vocabulary => vocabulary.entity == lists.entity with
    | none => simp only [Option.map_none, reduceCtorEq, false_and, exists_false]
    | some vocabulary => simp only [Option.map_some, Option.some.injEq, exists_eq_left', hsame]

theorem exists_addPolicy_fold_iff (vocabularies : List Vocabulary) (merged : List PolicyLists) :
    (∃ vocabularies', merged.foldlM addPolicy vocabularies = .ok vocabularies') ↔
      ∀ lists ∈ merged, Accepts vocabularies lists := by
  have hfold := Outcome.exists_foldlM_iff (R := fun _ _ => True)
    (fun _ (vocabularies' : List Vocabulary) =>
      ∀ lists, Accepts vocabularies' lists ↔ Accepts vocabularies lists)
    (fun _ vocabularies' lists hsame => exists_addPolicy_iff.trans
      ((hsame lists).trans (and_iff_left fun _ _ => trivial).symm))
    (fun _ _ vocabularies' _ hsame hadd lists => (accepts_of_addPolicy hadd).trans (hsame lists))
    (fun _ => Iff.rfl) merged
  rw [hfold]
  exact and_iff_left (List.pairwise_of_forall fun _ _ => trivial)

/-! ### The catalog -/

theorem entryName?_isSome_iff (h : vocabulary.AssembledFrom registry source) :
    (vocabulary.entryName? entry).isSome = true ↔
      Knows registry source vocabulary.entity entry := by
  obtain ⟨table, columns, htable, hcolumns, h⟩ := h
  have hrelationship : (vocabulary.relationship? entry).isSome = true ↔
      ∃ relationship ∈ (source.relationships vocabulary.entity).getD [],
        relationship.name = entry := by
    simp only [Vocabulary.relationship?, h.relationships_eq, List.find?_isSome, beq_iff_eq]
  have hmem : entry ∈ Vocabulary.enumerated registry vocabulary.columns ↔
      ∃ condition ∈ Vocabulary.plainConditions registry.kinds columns,
        entry ∈ Vocabulary.plainNames condition := by
    rw [h.columns_eq]
    exact Vocabulary.mem_enumerated_iff
  have hlookup : (vocabulary.names.lookup entry).isSome = true ↔
      ∃ condition ∈ Vocabulary.plainConditions registry.kinds columns,
        entry ∈ Vocabulary.plainNames condition := by
    rw [← hmem, Option.isSome_iff_ne_none, ne_eq, h.lists.lookup_eq_none_iff, h.keys_eq,
      ← Vocabulary.not_mem_enumerated_iff, not_not]
  have hresolve : (vocabulary.resolve? entry).isSome = true ↔
      (vocabulary.names.lookup entry).isSome = true ∨
        (Vocabulary.resolveModified? registry (Vocabulary.columnRefs source.quote table columns)
          entry).isSome = true := by
    rw [Vocabulary.resolve?_eq, Option.isSome_or, Bool.or_eq_true, h.registry_eq, h.columns_eq]
  have hentry : (vocabulary.entryName? entry).isSome = true ↔
      (vocabulary.relationship? entry).isSome = true ∨
        (vocabulary.resolve? entry).isSome = true := by
    unfold Vocabulary.entryName?
    split <;> simp [*]
  rw [hentry, hrelationship, hresolve, hlookup, Knows]
  simp only [htable, hcolumns, Option.some.injEq, exists_and_left, exists_eq_left']

/-- The entries of the lists that count are accepted by the vocabularies of a schema exactly if they are known. -/
theorem accepts_merged_iff
    (hentities : source.entities.foldlM (addEntity registry source) [] = .ok vocabularies)
    (policies : List PolicyLists) :
    (∀ lists ∈ PolicyLists.merged policies, Accepts vocabularies lists) ↔
      ∀ entity names,
        PolicyLists.accessibleFor policies entity = some names ∨
          PolicyLists.deniedFor policies entity = some names →
        entity ∈ source.entities ∧ ∀ entry ∈ names, Knows registry source entity entry := by
  obtain ⟨hnames, hdescribes⟩ := addEntity_fold hentities
  constructor
  · intro haccepts entity names hgiven
    have hmerged : ∃ lists ∈ PolicyLists.merged policies, lists.entity = entity := by
      rcases hgiven with hgiven | hgiven
      · exact PolicyLists.exists_mem_merged (.inl rfl) hgiven
      · exact PolicyLists.exists_mem_merged (.inr rfl) hgiven
    obtain ⟨lists, hmem, rfl⟩ := hmerged
    rw [PolicyLists.accessibleFor, ← PolicyLists.lastGiven_of_mem_merged (.inl rfl) hmem,
      PolicyLists.deniedFor, ← PolicyLists.lastGiven_of_mem_merged (.inr rfl) hmem] at hgiven
    obtain ⟨vocabulary, hfound, hentries⟩ := haccepts lists hmem names hgiven
    have hvocabulary := List.mem_of_find?_eq_some hfound
    rw [← entity_of_find? hfound, ← hnames]
    exact ⟨List.mem_map_of_mem hvocabulary, fun entry hentry =>
      (entryName?_isSome_iff (hdescribes vocabulary hvocabulary).assembled).mp
        (hentries entry hentry)⟩
  · intro hknown lists hmem names hgiven
    rw [PolicyLists.lastGiven_of_mem_merged (.inl rfl) hmem,
      PolicyLists.lastGiven_of_mem_merged (.inr rfl) hmem] at hgiven
    obtain ⟨hentity, hentries⟩ := hknown lists.entity names hgiven
    rw [← hnames] at hentity
    obtain ⟨other, hother, heq⟩ := List.mem_map.mp hentity
    have hfound : (vocabularies.find? fun vocabulary =>
        vocabulary.entity == lists.entity).isSome = true :=
      List.find?_isSome.mpr ⟨other, hother, beq_iff_eq.mpr heq⟩
    obtain ⟨vocabulary, hfound⟩ := Option.isSome_iff_exists.mp hfound
    refine ⟨vocabulary, hfound, fun entry hentry => ?_⟩
    rw [entryName?_isSome_iff
      (hdescribes vocabulary (List.mem_of_find?_eq_some hfound)).assembled, entity_of_find? hfound]
    exact hentries entry hentry

/-- A catalog is built exactly from acceptable inputs. -/
theorem exists_build_iff (registry : Registry) (source : SchemaSource)
    (policies : List PolicyLists) :
    (∃ catalog, build registry source policies = .ok catalog) ↔
      Acceptable registry source policies := by
  have hentities := exists_addEntity_fold_iff registry source source.entities
  simp only [Vocabulary.exists_build_iff_admissible] at hentities
  constructor
  · rintro ⟨catalog, hbuild⟩
    obtain ⟨vocabularies, hfold, hbuild⟩ := Outcome.bind_eq_ok_iff.mp hbuild
    obtain ⟨guarded, hpolicies, _⟩ := Outcome.bind_eq_ok_iff.mp hbuild
    obtain ⟨heach, hnodup⟩ := hentities.mp ⟨vocabularies, hfold⟩
    exact ⟨hnodup, fun entity hmem => (heach entity hmem).1,
      fun entity hmem => (heach entity hmem).2,
      (accepts_merged_iff hfold policies).mp
        ((exists_addPolicy_fold_iff vocabularies _).mp ⟨guarded, hpolicies⟩)⟩
  · intro h
    obtain ⟨vocabularies, hfold⟩ := hentities.mpr
      ⟨fun entity hmem => ⟨h.admissible entity hmem, h.targets entity hmem⟩, h.entities⟩
    obtain ⟨guarded, hpolicies⟩ := (exists_addPolicy_fold_iff vocabularies _).mpr
      ((accepts_merged_iff hfold policies).mpr h.policies)
    exact ⟨⟨source, guarded⟩, Outcome.bind_eq_ok_iff.mpr
      ⟨vocabularies, hfold, Outcome.bind_eq_ok_iff.mpr ⟨guarded, hpolicies, rfl⟩⟩⟩

/-! ### Other spellings -/

variable {catalog : Catalog}

def guarded (policies : List PolicyLists) (vocabulary : Vocabulary) : Vocabulary :=
  { vocabulary with
    policy := {
      accessible := (PolicyLists.accessibleFor policies vocabulary.entity).map
        (·.filterMap vocabulary.entryName?)
      denied := (PolicyLists.deniedFor policies vocabulary.entity).map
        (·.filterMap vocabulary.entryName?) } }

theorem guarded_givePolicy (entity : String) (policy : Policy) (vocabulary : Vocabulary) :
    guarded policies (givePolicy entity policy vocabulary) = guarded policies vocabulary := by
  unfold givePolicy
  split <;> rfl

theorem filterMap_eq_of_map_eq {given : Option (List String)} {stands : String → Option String}
    {names : Option (List (Option String))} (h : given.map (·.map stands) = names) :
    given.map (·.filterMap stands) = names.map (·.filterMap id) := by
  subst h
  simp only [Option.map_map, Function.comp_def, List.filterMap_map, id]

theorem Follows.guarded_eq (h : Follows policies vocabulary) :
    guarded policies vocabulary = vocabulary := by
  have hlisted : ∀ listed : Option (List String),
      (listed.map (·.map some)).map (·.filterMap id) = listed := by
    intro listed
    simp [Option.map_map, Function.comp_def, List.filterMap_map]
  rw [guarded, filterMap_eq_of_map_eq h.accessible, filterMap_eq_of_map_eq h.denied, hlisted,
    hlisted]

theorem vocabulary?_of_mem (h : build registry source policies = .ok catalog)
    (hmem : vocabulary ∈ catalog.vocabularies) :
    catalog.vocabulary? vocabulary.entity = some vocabulary := by
  obtain ⟨vocabularies, hfold, _⟩ := Outcome.bind_eq_ok_iff.mp h
  have hnodup := ((exists_addEntity_fold_iff registry source _).mp ⟨vocabularies, hfold⟩).2
  rw [← (built_of_build h).entities_eq] at hnodup
  have hsome : (catalog.vocabulary? vocabulary.entity).isSome = true :=
    List.find?_isSome.mpr ⟨vocabulary, hmem, beq_self_eq_true vocabulary.entity⟩
  obtain ⟨found, hfound⟩ := Option.isSome_iff_exists.mp hsome
  rw [hfound, List.inj_on_of_nodup_map hnodup (mem_of_vocabulary? hfound) hmem
    (entity_of_vocabulary? hfound)]

theorem vocabularies_eq_of_build (h : build registry source policies = .ok catalog)
    (hentities : source.entities.foldlM (addEntity registry source) [] = .ok vocabularies) :
    catalog.vocabularies = vocabularies.map (guarded policies) := by
  have hsame : catalog.vocabularies.map (guarded policies) = catalog.vocabularies := by
    conv_rhs => rw [← List.map_id catalog.vocabularies]
    exact List.map_congr_left fun vocabulary hmem =>
      (follows_of_build h (vocabulary?_of_mem h hmem)).guarded_eq
  obtain ⟨_, hfold, hbuild⟩ := Outcome.bind_eq_ok_iff.mp h
  rw [hentities, Except.ok.injEq] at hfold
  subst hfold
  obtain ⟨_, hpolicies, hcatalog⟩ := Outcome.bind_eq_ok_iff.mp hbuild
  cases hcatalog
  rw [← hsame]
  refine Outcome.foldlM_invariant
    (fun _ (built : List Vocabulary) =>
      built.map (guarded policies) = vocabularies.map (guarded policies))
    (fun lists rest built built' hbuilt hadd => ?_) rfl hpolicies
  rcases addPolicy_eq_ok_iff.mp hadd with ⟨_, rfl⟩ | ⟨_, _, _, _, _, _, _, rfl⟩
  · exact hbuilt
  · rw [List.map_map, ← hbuilt]
    exact List.map_congr_left fun vocabulary _ => guarded_givePolicy _ _ vocabulary

/-- Two lists are spellings of each other if their entries stand for the same, one by one. -/
def SameNames (vocabulary : Vocabulary) (given given' : Option (List String)) : Prop :=
  given.map (·.map vocabulary.entryName?) = given'.map (·.map vocabulary.entryName?)

/-- Lists in other spellings make the same catalog. -/
theorem build_eq_of_sameNames {policies' : List PolicyLists} {catalog' : Catalog}
    (h : build registry source policies = .ok catalog)
    (h' : build registry source policies' = .ok catalog')
    (hsame : ∀ vocabulary ∈ catalog.vocabularies,
      SameNames vocabulary (PolicyLists.accessibleFor policies vocabulary.entity)
        (PolicyLists.accessibleFor policies' vocabulary.entity) ∧
      SameNames vocabulary (PolicyLists.deniedFor policies vocabulary.entity)
        (PolicyLists.deniedFor policies' vocabulary.entity)) : catalog' = catalog := by
  obtain ⟨vocabularies, hfold, _⟩ := Outcome.bind_eq_ok_iff.mp h
  have heq := vocabularies_eq_of_build h hfold
  have heq' := vocabularies_eq_of_build h' hfold
  have hvocabularies : catalog'.vocabularies = catalog.vocabularies := by
    rw [heq, heq']
    refine List.map_congr_left fun vocabulary hmem => ?_
    obtain ⟨haccessible, hdenied⟩ := hsame (guarded policies vocabulary)
      (heq ▸ List.mem_map_of_mem hmem)
    have haccessible' := filterMap_eq_of_map_eq haccessible
    have hdenied' := filterMap_eq_of_map_eq hdenied
    rw [← filterMap_eq_of_map_eq rfl] at haccessible' hdenied'
    exact congrArg₂ (fun accessible denied => { vocabulary with policy := ⟨accessible, denied⟩ })
      haccessible'.symm hdenied'.symm
  have hsource := (built_of_build h).source_eq
  have hsource' := (built_of_build h').source_eq
  cases catalog
  cases catalog'
  cases hsource
  cases hsource'
  cases hvocabularies
  rfl

end Catalog

end SearchFilter
