import SearchFilter.Proofs.ConditionTree.Places
import SearchFilter.Proofs.Value.Coerced
import SearchFilter.Proofs.Vocabulary.Canonical
/-!
# Well-formed nodes

What can be relied on at every node of a reachable tree: the names of its conditions are different, each holds a value that its own kind stores for its own type, the trees below it are those of different relationships of its entity, and its scope, if it has one, says something and binds nothing.

Most of this is what edits keep at single nodes. That a value suits the key it is stored under takes more. Keys are compared by name, and a condition that is set again keeps its key, so the value may have been coerced for another key of the name. The name leads to a single key, though. If that agrees with every key of the name in kind and type, as it does with the standard registry, then all of them agree, even where they belong to different columns.
-/

namespace SearchFilter

variable {source : SchemaSource} {catalog : Catalog} {vocabulary : Vocabulary}

/-! ### Stored values -/

/-- The canonical name of a condition leads to one of the same kind at the same type. -/
def Vocabulary.Steady (vocabulary : Vocabulary) : Prop :=
  ∀ name key, vocabulary.resolve? name = some key →
    ∃ other, vocabulary.resolve? key.name = some other ∧ other.kind = key.kind ∧
      other.valueType = key.valueType

theorem Vocabulary.AssembledFrom.steady (h : vocabulary.AssembledFrom Registry.standard source) :
    vocabulary.Steady := by
  intro name key hkey
  obtain ⟨table, columns, _, _, hassembled⟩ := h
  obtain ⟨other, hother, hkind, htype, _⟩ := hassembled.resolve?_name_cases hkey
  exact ⟨other, hother, hkind, htype⟩

namespace ConditionTree

variable {tree : ConditionTree} {key : ConditionKey} {v : Value}

theorem Stored.admits (h : Stored catalog vocabulary key v) (hsteady : vocabulary.Steady) :
    key.kind.operation.Admits key.valueType v := by
  obtain ⟨name, hkey⟩ := h.resolved
  obtain ⟨name', assigned, u, hassigned, hname, _, hcoerce⟩ := h.coerced
  obtain ⟨other, hother, hkind, htype⟩ := hsteady name key hkey
  obtain ⟨other', hother', hkind', htype'⟩ := hsteady name' assigned hassigned
  rw [hname, hother] at hother'
  cases hother'
  rw [← hkind, ← htype, hkind', htype']
  exact Operation.admits_of_coerce hcoerce

/-! ### Nodes -/

/-- A node of a catalog with the schema. -/
structure WellFormed (source : SchemaSource) (catalog : Catalog) (node : ConditionTree) :
    Prop where
  names : (activeNames node.conditions).Nodup
  active : ∀ key v, (key, v) ∈ node.conditions → v ≠ .null
  applies : ∀ key v, (key, v) ∈ node.conditions → key.kind.appliesTo key.valueType = true
  stable : ∀ key v, (key, v) ∈ node.conditions →
    key.kind.coerce source.parseTemporal key.valueType v = .ok v
  relationships : (node.relations.map (·.1)).Nodup
  /-- A relationship may be declared twice. Then the first declaration counts. -/
  declared : ∀ name child, (name, child) ∈ node.relations →
    ∃ relationship ∈ (source.relationships node.entity).getD [], relationship.name = name ∧
      node.vocabulary.relationship? name = some relationship ∧
      child.entity = relationship.entity ∧
      catalog.vocabulary? relationship.entity = some child.vocabulary
  scope : ∀ scope, node.scope = some scope →
    (∃ c ∈ scope.toList, Text.isBlank c = false) ∧ '?' ∉ scope.toList

theorem Consistent.wellFormed (hbuilt : catalog.Built Registry.standard source)
    (h : Consistent catalog tree) (hunrepeated : Unrepeated tree) :
    WellFormed source catalog tree := by
  have hassembled := h.assembled hbuilt
  have hadmits : ∀ key v, (key, v) ∈ tree.conditions →
      key.kind.operation.Admits key.valueType v :=
    fun key v hmem => (h.conditions key v hmem).admits hassembled.steady
  refine ⟨hunrepeated.conditions, fun key v hmem => ?_, fun key v hmem => ?_, fun key v hmem => ?_,
    hunrepeated.relations, fun name child hmem => ?_, fun scope hscope => ?_⟩
  · rintro rfl
    exact absurd (hadmits key _ hmem).isNull_eq_false (by decide)
  · obtain ⟨name, hkey⟩ := (h.conditions key v hmem).resolved
    exact (hassembled.madeFrom hkey).applies
  · exact (hadmits key v hmem).coerce_eq
  · obtain ⟨relationship, hrelationship, htarget⟩ := h.relations name child hmem
    obtain ⟨table, columns, _, _, hparts⟩ := hassembled
    have hdeclared := Vocabulary.relationship?_mem hrelationship
    rw [hparts.relationships_eq] at hdeclared
    exact ⟨relationship, hdeclared, by simpa using List.find?_some hrelationship, hrelationship,
      Catalog.entity_of_vocabulary? htarget, htarget⟩
  · obtain ⟨htext, hmarks⟩ := h.scope scope hscope
    rw [List.all_eq_false] at htext
    obtain ⟨c, hc, hblank⟩ := htext
    exact ⟨⟨c, hc, Bool.eq_false_iff.mpr hblank⟩, by simpa using hmarks⟩

/-- Whatever was done to a tree, all its nodes are well formed. -/
theorem wellFormed_of_reachable {policies : List PolicyLists}
    (hbuild : Catalog.build Registry.standard source policies = .ok catalog)
    (htree : Reachable catalog tree) : Everywhere (WellFormed source catalog) tree := by
  have hboth := htree.consistent.and htree.unrepeated
  exact hboth.imp fun node ⟨hconsistent, hunrepeated⟩ =>
    hconsistent.wellFormed (Catalog.built_of_build hbuild) hunrepeated

/-- A key of a user, and a scope for the author of the posts. -/
theorem wellFormed_of_reachable_blog : ∃ tree, Reachable Catalog.blog tree ∧
    tree.compile.template = "(\"users\".\"key\" = ?) AND ((users.active))" ∧
    Everywhere (WellFormed Catalog.blogSchema.source Catalog.blog) tree := by
  have htemplate : (forEntity Catalog.blog "User" false >>= ConditionTree.apply Catalog.blog
      (.mapping [("key", .value (.string "a")),
        ("posts", .mapping [("author", .value (.string "users.active"))])])).toOption.map
          (·.compile.template) = some "(\"users\".\"key\" = ?) AND ((users.active))" := by
    decide +kernel
  obtain ⟨tree, htree, htemplate⟩ := Option.map_eq_some_iff.mp htemplate
  have hreachable := Reachable.of_apply (Outcome.toOption_eq_some_iff.mp htree)
  exact ⟨tree, hreachable, htemplate,
    wellFormed_of_reachable Catalog.ofSchema_blogSchema hreachable⟩

end ConditionTree

end SearchFilter
