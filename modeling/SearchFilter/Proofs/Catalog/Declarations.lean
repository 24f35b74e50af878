import SearchFilter.Proofs.Catalog.Acceptance
/-!
# Relationships that are declared again

Building asks two things of the relationships of an entity: their names have to be valid and free, and each has to lead to an entity of the schema. It asks them of every declaration by itself. So a name that was declared before may be declared again, for whatever entity of the schema, and nothing that was built without the second declaration is refused because of it.
-/

namespace SearchFilter

def SchemaSource.declared (source : SchemaSource) (entity : String) : List Relationship :=
  (source.relationships entity).getD []

def SchemaSource.declare (source : SchemaSource) (entity : String) (relationship : Relationship) :
    SchemaSource :=
  { source with
    relationships := fun other =>
      if other = entity then some (source.declared other ++ [relationship])
      else source.relationships other }

namespace SchemaSource

variable {source : SchemaSource} {entity other : String} {relationship again : Relationship}

theorem declared_declare :
    (source.declare entity again).declared other =
      source.declared other ++ if other = entity then [again] else [] := by
  by_cases h : other = entity
  · simp [declared, declare, h]
  · simp [declared, declare, h]

/-- What holds of the relationships by their names holds of a name that is declared again. -/
theorem forall_declared_iff (hmem : relationship ∈ source.declared entity)
    (hname : again.name = relationship.name) (other : String) {P : String → Prop} :
    (∀ r ∈ (source.declare entity again).declared other, P r.name) ↔
      ∀ r ∈ source.declared other, P r.name := by
  rw [declared_declare]
  split
  · rename_i hentity
    subst hentity
    simp only [List.mem_append, List.mem_singleton, or_imp, forall_and, forall_eq, hname]
    exact and_iff_left_of_imp fun h => h relationship hmem
  · rw [List.append_nil]

theorem exists_declared_iff (hmem : relationship ∈ source.declared entity)
    (hname : again.name = relationship.name) (other name : String) :
    (∃ r ∈ (source.declare entity again).declared other, r.name = name) ↔
      ∃ r ∈ source.declared other, r.name = name := by
  have h := forall_declared_iff hmem hname other (P := fun found => found ≠ name)
  simpa only [not_forall, not_not, exists_prop] using not_congr h

end SchemaSource

namespace Catalog

variable {registry : Registry} {source : SchemaSource} {policies : List PolicyLists}
  {entity : String} {relationship again : Relationship}

/-- A catalog is built exactly if the vocabularies of all entities are and the entries of the lists that count are known. -/
theorem exists_build_iff_known :
    (∃ catalog, build registry source policies = .ok catalog) ↔
      (∃ vocabularies, source.entities.foldlM (addEntity registry source) [] = .ok vocabularies) ∧
        ∀ entity names,
          PolicyLists.accessibleFor policies entity = some names ∨
            PolicyLists.deniedFor policies entity = some names →
          entity ∈ source.entities ∧ ∀ entry ∈ names, Knows registry source entity entry := by
  constructor
  · rintro ⟨catalog, hbuild⟩
    obtain ⟨vocabularies, hfold, hbuild⟩ := Outcome.bind_eq_ok_iff.mp hbuild
    obtain ⟨guarded, hpolicies, _⟩ := Outcome.bind_eq_ok_iff.mp hbuild
    exact ⟨⟨vocabularies, hfold⟩, (accepts_merged_iff hfold policies).mp
      ((exists_addPolicy_fold_iff vocabularies _).mp ⟨guarded, hpolicies⟩)⟩
  · rintro ⟨⟨vocabularies, hfold⟩, hknown⟩
    obtain ⟨guarded, hpolicies⟩ := (exists_addPolicy_fold_iff vocabularies _).mpr
      ((accepts_merged_iff hfold policies).mpr hknown)
    exact ⟨⟨source, guarded⟩, Outcome.bind_eq_ok_iff.mpr
      ⟨vocabularies, hfold, Outcome.bind_eq_ok_iff.mpr ⟨guarded, hpolicies, rfl⟩⟩⟩

section Again

variable (hmem : relationship ∈ source.declared entity) (hname : again.name = relationship.name)

include hmem hname

theorem admissible_declare_iff {quote : String → String} {table : String} {columns : List Column}
    (other : String) :
    Vocabulary.Admissible registry quote table columns
        ((source.declare entity again).declared other) ↔
      Vocabulary.Admissible registry quote table columns (source.declared other) := by
  have hvalid := SchemaSource.forall_declared_iff hmem hname other
    (P := fun name => Identifier.isValid name = true)
  have hfree := SchemaSource.forall_declared_iff hmem hname other
    (P := fun name => ∀ condition ∈ Vocabulary.plainConditions registry.kinds columns,
      name ∉ Vocabulary.plainNames condition)
  constructor
  · intro h
    exact { h with validRelationships := hvalid.mp h.validRelationships, noClash := hfree.mp h.noClash }
  · intro h
    exact
      { h with validRelationships := hvalid.mpr h.validRelationships, noClash := hfree.mpr h.noClash }

theorem exists_vocabulary_declare_iff (other : String) :
    (∃ vocabulary, Vocabulary.build registry (source.declare entity again) other = .ok vocabulary) ↔
      ∃ vocabulary, Vocabulary.build registry source other = .ok vocabulary := by
  rw [Vocabulary.exists_build_iff_admissible, Vocabulary.exists_build_iff_admissible]
  refine exists_congr fun table => exists_congr fun columns => ?_
  exact and_congr_right' (and_congr_right' (admissible_declare_iff hmem hname other))

theorem knows_declare_iff (other entry : String) :
    Knows registry (source.declare entity again) other entry ↔ Knows registry source other entry :=
  or_congr_left (SchemaSource.exists_declared_iff hmem hname other entry)

/-- Whether a relationship is declared again, for the same entity or another, has no influence on whether the catalog is built. -/
theorem exists_build_declare_iff (htarget : again.entity ∈ source.entities) :
    (∃ catalog, build registry (source.declare entity again) policies = .ok catalog) ↔
      ∃ catalog, build registry source policies = .ok catalog := by
  have htargets : ∀ other, (∀ r ∈ (source.declare entity again).declared other,
      r.entity ∈ source.entities) ↔ ∀ r ∈ source.declared other, r.entity ∈ source.entities := by
    intro other
    rw [SchemaSource.declared_declare]
    split
    · simp only [List.mem_append, List.mem_singleton, or_imp, forall_and, forall_eq, htarget,
        and_true]
    · rw [List.append_nil]
  rw [exists_build_iff_known, exists_build_iff_known, exists_addEntity_fold_iff,
    exists_addEntity_fold_iff]
  simp only [exists_vocabulary_declare_iff hmem hname, knows_declare_iff hmem hname]
  exact and_congr_left' (and_congr_left' (forall₂_congr fun other _ =>
    and_congr_right' (htargets other)))

end Again

end Catalog

end SearchFilter
