import SearchFilter.Proofs.Vocabulary.Enumerated
/-!
# Admissible entities

What an entity has to be like for its vocabulary to be built, in terms of what the schema says of it. The conditions without modifiers are the pairs of a column and a kind that applies to it. They may not share names with each other, with relationships or with anything that is read with modifiers, and the names that go into statements have to be valid. Nothing else is required.
-/

namespace SearchFilter

namespace Vocabulary

variable {registry : Registry} {quote : String → String} {entity table : String}
  {columns : List Column} {relationships : List Relationship}

/-- The conditions without modifiers: every column with every kind that applies to it. A column that is listed twice counts twice. -/
def plainConditions (kinds : List Kind) (columns : List Column) : List (Column × Kind) :=
  columns.flatMap fun column =>
    (kinds.filter fun kind => kind.appliesTo column.type).map fun kind => (column, kind)

def plainNames (condition : Column × Kind) : List String := condition.2.namesFor condition.1

structure Admissible (registry : Registry) (quote : String → String) (table : String)
    (columns : List Column) (relationships : List Relationship) : Prop where
  validTable : Identifier.isValid table = true
  validColumns : ∀ column ∈ columns, Identifier.isValid column.name = true
  validRelationships : ∀ relationship ∈ relationships, Identifier.isValid relationship.name = true
  /-- No two conditions share a name. -/
  apart : (plainConditions registry.kinds columns).Pairwise fun first second =>
    ∀ name ∈ plainNames first, name ∉ plainNames second
  noClash : ∀ relationship ∈ relationships, ∀ condition ∈ plainConditions registry.kinds columns,
    relationship.name ∉ plainNames condition
  noOverlap : ∀ condition ∈ plainConditions registry.kinds columns,
    ∀ name ∈ plainNames condition,
      resolveModified? registry (columnRefs quote table columns) name = none

/-- The enumerated keys are those of the conditions without modifiers. -/
theorem flatMap_keysOf_eq (kinds : List Kind) (quote : String → String) (table : String)
    (columns : List Column) :
    (columnRefs quote table columns).flatMap (keysOf kinds) =
      (plainConditions kinds columns).map fun (column, kind) =>
        ConditionKey.ofParts column (quote table ++ "." ++ quote column.name) [] kind
          column.type := by
  simp only [columnRefs, plainConditions, keysOf, List.flatMap_map, List.map_flatMap, List.map_map,
    Function.comp_def]

theorem mem_enumerated_iff {name : String} :
    name ∈ enumerated registry (columnRefs quote table columns) ↔
      ∃ condition ∈ plainConditions registry.kinds columns, name ∈ plainNames condition := by
  rw [enumerated, flatMap_keysOf_eq, List.flatMap_map, List.mem_flatMap]
  rfl

theorem invalidName?_eq_none_iff :
    invalidName? table columns relationships = none ↔
      Identifier.isValid table = true ∧
      (∀ column ∈ columns, Identifier.isValid column.name = true) ∧
      ∀ relationship ∈ relationships, Identifier.isValid relationship.name = true := by
  simp [invalidName?, or_imp, forall_and]

theorem exists_ofParts_iff_admissible (entity : String) :
    (∃ vocabulary, ofParts registry quote entity table columns relationships = .ok vocabulary) ↔
      Admissible registry quote table columns relationships := by
  rw [exists_ofParts_iff, invalidName?_eq_none_iff, flatMap_keysOf_eq, List.pairwise_map]
  simp only [mem_enumerated_iff, not_exists, not_and, forall_exists_index, and_imp]
  constructor
  · rintro ⟨⟨htable, hcolumns, hrelationships⟩, hapart, hclash, hoverlap⟩
    exact ⟨htable, hcolumns, hrelationships, hapart, hclash,
      fun condition hcondition name hname => hoverlap name condition hcondition hname⟩
  · rintro ⟨htable, hcolumns, hrelationships, hapart, hclash, hoverlap⟩
    exact ⟨⟨htable, hcolumns, hrelationships⟩, hapart, hclash,
      fun name condition hcondition hname => hoverlap condition hcondition name hname⟩

/-- A vocabulary is built exactly for the entities that have a table and columns and are admissible. -/
theorem exists_build_iff_admissible {source : SchemaSource} :
    (∃ vocabulary, build registry source entity = .ok vocabulary) ↔
      ∃ table columns, source.tableName entity = some table ∧
        source.columns entity = some columns ∧
        Admissible registry source.quote table columns
          ((source.relationships entity).getD []) := by
  unfold build
  split
  · rename_i table columns htable hcolumns
    rw [exists_ofParts_iff_admissible]
    simp only [htable, hcolumns, Option.some.injEq, exists_and_left, exists_eq_left']
  · rename_i hmissing
    refine iff_of_false (fun ⟨_, h⟩ => by cases h) ?_
    rintro ⟨table, columns, htable, hcolumns, _⟩
    exact hmissing table columns htable hcolumns

end Vocabulary

end SearchFilter
