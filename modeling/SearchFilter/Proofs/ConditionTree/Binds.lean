import SearchFilter.Proofs.ConditionKey.Binds
import SearchFilter.Proofs.ConditionTree.WellFormed
import SearchFilter.Proofs.Fragment.Clauses
/-!
# What compiled trees bind

A compiled tree binds what its conditions bind, at all nodes; scopes bind nothing. With the standard registry every condition of a reachable tree holds a value that its kind stores for its type, so what it binds is of that type, and nothing that is bound is null or a list of anything but scalars.
-/

namespace SearchFilter

namespace ConditionTree

variable {source : SchemaSource} {catalog : Catalog} {tree : ConditionTree} {key : ConditionKey}
  {v : Value}

/-- What every condition binds has the property, and so has everything that the compiled tree binds. -/
theorem binds_induction {P : Value → Prop}
    (h : Everywhere (fun node => ∀ key v, (key, v) ∈ node.conditions →
      ∀ bind ∈ (key.compile v).binds, P bind) tree) : ∀ bind ∈ tree.compile.binds, P bind := by
  induction h with
  | @mk tree here _ ih =>
    intro bind hbind
    obtain ⟨clause, hclause, hbind⟩ := List.mem_flatMap.mp hbind
    rcases mem_clauses_iff.mp hclause with
      ⟨key, v, hmem, rfl⟩ | ⟨name, child, hmem, _, rfl⟩ | ⟨scope, _, rfl⟩
    · exact here key v hmem bind hbind
    · exact ih name child hmem bind hbind
    · exact absurd hbind List.not_mem_nil

theorem Consistent.bindsTyped (hbuilt : catalog.Built Registry.standard source)
    (h : Consistent catalog tree) (hmem : (key, v) ∈ tree.conditions) : key.BindsTyped v := by
  obtain ⟨hstored, hassembled⟩ := h.stored hbuilt hmem
  obtain ⟨name, hkey⟩ := hstored.resolved
  exact ConditionKey.binds_compile key.wrappedColumn (hstored.admits hassembled.steady)
    (hassembled.madeFrom hkey).valueType_of_readsText

/-- Every condition of a reachable tree binds values of its type, and the compiled tree binds scalars and lists of scalars only. -/
theorem binds_of_reachable {policies : List PolicyLists}
    (hbuild : Catalog.build Registry.standard source policies = .ok catalog)
    (htree : Reachable catalog tree) :
    Everywhere (fun node => ∀ key v, (key, v) ∈ node.conditions → key.BindsTyped v) tree ∧
      ∀ bind ∈ tree.compile.binds, bind.IsFlat := by
  have hbuilt := Catalog.built_of_build hbuild
  have htyped : Everywhere (fun node => ∀ key v, (key, v) ∈ node.conditions →
      key.BindsTyped v) tree :=
    htree.consistent.imp fun node hnode key v hmem => hnode.bindsTyped hbuilt hmem
  refine ⟨htyped, binds_induction (htyped.imp fun node hnode key v hmem bind hbind => ?_)⟩
  exact (hnode key v hmem).isFlat hbind

def articleSchema : Schema where
  definitions := [{ name := "Article", columns := [⟨"title", .text⟩, ⟨"views", .integer⟩] }]

/-- A search, a set and a range. The items of the range are given as texts and bound as numbers. -/
theorem binds_of_reachable_article : ∃ catalog tree,
    Catalog.ofSchema Registry.standard articleSchema = .ok catalog ∧ Reachable catalog tree ∧
    tree.compile.template = "(UPPER(\"articles\".\"title\") LIKE ?)" ++
      " AND (\"articles\".\"title\" IN (?)) AND (\"articles\".\"views\" BETWEEN ? AND ?)" ∧
    tree.compile.binds.map Value.form = ["string", "array", "integer", "integer"] ∧
    Everywhere (fun node => ∀ key v, (key, v) ∈ node.conditions → key.BindsTyped v) tree ∧
    ∀ bind ∈ tree.compile.binds, bind.IsFlat := by
  have hparts : ((Catalog.ofSchema Registry.standard articleSchema).toOption.bind fun catalog =>
      (forEntity catalog "Article" false >>= ConditionTree.apply catalog (.mapping [
        ("title_upper_keywords", .value (.string "fox")),
        ("title_in", .value (.array [.string "a", .integer 1])),
        ("views_between", .value (.array [.string "1", .string "2"]))])).toOption.map fun tree =>
          (catalog, tree)).map (fun found =>
            (found.2.compile.template, found.2.compile.binds.map Value.form)) =
      some ("(UPPER(\"articles\".\"title\") LIKE ?)" ++
        " AND (\"articles\".\"title\" IN (?)) AND (\"articles\".\"views\" BETWEEN ? AND ?)",
        ["string", "array", "integer", "integer"]) := by
    decide +kernel
  obtain ⟨⟨catalog, tree⟩, hfound, hparts⟩ := Option.map_eq_some_iff.mp hparts
  obtain ⟨htemplate, hforms⟩ := Prod.mk.inj hparts
  obtain ⟨catalog', hbuild, hfound⟩ := Option.bind_eq_some_iff.mp hfound
  obtain ⟨tree', htree, heq⟩ := Option.map_eq_some_iff.mp hfound
  cases heq
  rw [Outcome.toOption_eq_some_iff] at hbuild
  have hreachable := Reachable.of_apply (Outcome.toOption_eq_some_iff.mp htree)
  obtain ⟨htyped, hflat⟩ := binds_of_reachable hbuild hreachable
  exact ⟨catalog, tree, hbuild, hreachable, htemplate, hforms, htyped, hflat⟩

end ConditionTree

end SearchFilter
