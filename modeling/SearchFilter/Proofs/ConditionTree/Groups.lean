import SearchFilter.Proofs.ConditionKey.Binds
import SearchFilter.Proofs.ConditionKey.Silence
import SearchFilter.Proofs.ConditionTree.WellFormed
/-!
# Groups of compiled trees

A compiled tree is made of groups, one for each condition and one for each relationship that is not empty. No group is empty if every condition says something, and that is so unless a condition is silent: it searches for keywords, a modifier writes the text in capitals, and in capitals the text has no keywords.

That the value of a search has keywords before it is modified follows from its coercion. The rest is an induction over the tree. Scopes and quoted names come from outside, so they are asked to be solid themselves.
-/

namespace SearchFilter

namespace ConditionTree

open Fragment Text

variable {source : SchemaSource} {catalog : Catalog} {tree : ConditionTree}
  {vocabulary : Vocabulary} {key : ConditionKey} {v : Value}

/-! ### Conditions -/

section Stored

variable (h : Stored catalog vocabulary key v)
  (hassembled : vocabulary.AssembledFrom Registry.standard source)

include h hassembled

theorem Stored.exists_string (hsearches : key.kind.operation = .keywords) :
    ∃ s, v = .string s ∧ Keywords.tokens s ≠ [] := by
  have hadmits := h.admits hassembled.steady
  obtain ⟨name, hkey⟩ := h.resolved
  have htext := (hassembled.madeFrom hkey).valueType_of_readsText (by rw [hsearches]; rfl)
  rw [hsearches, htext] at hadmits
  obtain ⟨s, rfl⟩ := hadmits.1.exists_string
  exact ⟨s, rfl, hadmits.2⟩

theorem Stored.tokens_ne_nil_iff (hsearches : key.kind.operation = .keywords) :
    Keywords.tokens (key.transform v).searchText ≠ [] ↔ ¬ key.Silent v := by
  obtain ⟨s, rfl, hwords⟩ := h.exists_string hassembled hsearches
  exact ConditionKey.tokens_transform_ne_nil_iff hsearches hwords

theorem Stored.template_ne_empty_iff : (key.compile v).template ≠ "" ↔ ¬ key.Silent v := by
  rw [ConditionKey.compile, Kind.compile, ne_eq, Operation.template_eq_empty_iff]
  refine not_congr ⟨?_, fun hsilent => ⟨hsilent.searches, ?_⟩⟩
  · rintro ⟨hsearches, hnil⟩
    by_contra hsilent
    exact (h.tokens_ne_nil_iff hassembled hsearches).mpr hsilent hnil
  · by_contra hwords
    exact (h.tokens_ne_nil_iff hassembled hsilent.searches).mp hwords hsilent

theorem Stored.solid_compile
    (hquote : ∀ name : String, Identifier.isValid name = true → Solid (source.quote name))
    (hsilent : ¬ key.Silent v) : Solid (key.compile v).template := by
  obtain ⟨name, hkey⟩ := h.resolved
  refine hassembled.compile_of composes_solid hquote (by decide) (by decide) (by decide) hkey
    fun hsearches => .inl ?_
  exact (h.tokens_ne_nil_iff hassembled hsearches).mpr hsilent

end Stored

/-! ### Trees -/

def Telling (node : ConditionTree) : Prop := ∀ key v, (key, v) ∈ node.conditions → ¬ key.Silent v

theorem solid_compile (hbuilt : catalog.Built Registry.standard source)
    (hquote : ∀ name : String, Identifier.isValid name = true → Solid (source.quote name))
    (h : Everywhere (Consistent catalog) tree)
    (hscope : Everywhere (fun node => ∀ scope, node.scope = some scope → Solid scope) tree)
    (htelling : Everywhere Telling tree) :
    tree.compile.isEmpty = true ∨ Solid tree.compile.template := by
  induction h with
  | @mk tree here _ ih =>
    have hclauses : ∀ clause ∈ tree.clauses, Solid clause.template := by
      intro clause hclause
      rcases mem_clauses_iff.mp hclause with
        ⟨key, v, hmem, rfl⟩ | ⟨name, child, hmem, hnonempty, rfl⟩ | ⟨scope, hsome, rfl⟩
      · obtain ⟨hstored, hassembled⟩ := here.stored hbuilt hmem
        exact (hstored.solid_compile hassembled hquote (htelling.here key v hmem)).parenthesized
      · have hchild := ih name child hmem (hscope.inside hmem) (htelling.inside hmem)
        exact (hchild.resolve_left (Bool.eq_false_iff.mp hnonempty)).parenthesized
      · exact hscope.here scope hsome
    by_cases hnone : tree.clauses = []
    · left
      rw [compile, hnone]
      rfl
    · exact .inr (solid_conjunction hnone hclauses)

theorem hasEmptyGroup_compile {clause : Fragment} (hclause : clause ∈ tree.clauses)
    (h : HasEmptyGroup clause.template) : HasEmptyGroup tree.compile.template := by
  obtain ⟨before, after, heq⟩ := List.append_of_mem hclause
  rw [compile, heq, conjunction_append_cons]
  exact hasEmptyGroup_append h

theorem telling_of_compile (hbuilt : catalog.Built Registry.standard source)
    (h : Everywhere (Consistent catalog) tree) (hfree : ¬ HasEmptyGroup tree.compile.template) :
    Everywhere Telling tree := by
  induction h with
  | @mk tree here _ ih =>
    refine .mk (fun key v hmem hsilent => hfree ?_) fun name child hmem => ?_
    · obtain ⟨hstored, hassembled⟩ := here.stored hbuilt hmem
      have hempty : (key.compile v).template = "" := by
        by_contra hne
        exact (hstored.template_ne_empty_iff hassembled).mp hne hsilent
      have hclause : (key.compile v).parenthesized ∈ tree.clauses :=
        mem_clauses_iff.mpr (.inl ⟨key, v, hmem, rfl⟩)
      refine hasEmptyGroup_compile hclause ?_
      have hgroup : HasEmptyGroup ("(" ++ "" ++ ")") := by decide
      rwa [parenthesized, hempty]
    · refine ih name child hmem fun hgroup => hfree ?_
      have hnonempty : child.compile.isEmpty = false :=
        Bool.eq_false_iff.mpr fun hempty => not_hasEmptyGroup_of_isEmpty hempty hgroup
      have hclause : child.compile.parenthesized ∈ tree.clauses :=
        mem_clauses_iff.mpr (.inr (.inl ⟨name, child, hmem, hnonempty, rfl⟩))
      exact hasEmptyGroup_compile hclause (hasEmptyGroup_parenthesized hgroup)

/-! ### Reachable trees -/

/-- In a reachable tree every condition says something unless it is silent, and a search for keywords that is not silent is a conjunction of at least one clause. Where quoted names and scopes bring no empty groups along, the template has one exactly if some condition is silent. -/
theorem groups_of_reachable {policies : List PolicyLists}
    (hbuild : Catalog.build Registry.standard source policies = .ok catalog)
    (htree : Reachable catalog tree) :
    Everywhere (fun node => ∀ key v, (key, v) ∈ node.conditions →
      ((key.compile v).template ≠ "" ↔ ¬ key.Silent v) ∧
        (key.kind.operation = .keywords → ∃ words,
          key.compile v =
            conjunction (words.map (Operation.keywordClause key.wrappedColumn)) ∧
          (words ≠ [] ↔ ¬ key.Silent v))) tree ∧
      ((∀ name : String, Identifier.isValid name = true → Solid (source.quote name)) →
        Everywhere (fun node => ∀ scope, node.scope = some scope → Solid scope) tree →
        (¬ HasEmptyGroup tree.compile.template ↔ Everywhere Telling tree)) := by
  have hbuilt := Catalog.built_of_build hbuild
  have hconsistent := htree.consistent
  constructor
  · refine hconsistent.imp fun node here key v hmem => ?_
    obtain ⟨hstored, hassembled⟩ := here.stored hbuilt hmem
    refine ⟨hstored.template_ne_empty_iff hassembled, fun hsearches => ?_⟩
    refine ⟨Keywords.tokens (key.transform v).searchText, ?_,
      hstored.tokens_ne_nil_iff hassembled hsearches⟩
    rw [ConditionKey.compile, Kind.compile, hsearches, Operation.compile]
  · intro hquote hscope
    refine ⟨telling_of_compile hbuilt hconsistent, fun htelling hgroup => ?_⟩
    rcases solid_compile hbuilt hquote hconsistent hscope htelling with hempty | hsolid
    · exact not_hasEmptyGroup_of_isEmpty hempty hgroup
    · exact hsolid.free hgroup

/-! ### A search in capitals -/

def namesSchema : Schema where
  definitions := [{ name := "Account", columns := [⟨"name", .text⟩] }]

def treeOf (schema : Schema) (entity name : String) (v : Value) : Option (Catalog × ConditionTree) := do
  let catalog ← (Catalog.ofSchema Registry.standard schema).toOption
  let start ← (forEntity catalog entity false).toOption
  let tree ← (start.set catalog name v).toOption
  return (catalog, tree)

theorem reachable_of_treeOf {schema : Schema} {entity name : String}
    (h : treeOf schema entity name v = some (catalog, tree)) :
    Catalog.ofSchema Registry.standard schema = .ok catalog ∧ Reachable catalog tree := by
  obtain ⟨catalog', hcatalog, h⟩ := Option.bind_eq_some_iff.mp h
  obtain ⟨start, hstart, h⟩ := Option.bind_eq_some_iff.mp h
  obtain ⟨tree', htree, h⟩ := Option.bind_eq_some_iff.mp h
  cases h
  rw [Outcome.toOption_eq_some_iff] at hcatalog hstart htree
  exact ⟨hcatalog, (Reachable.start hstart).run (.set name v) htree⟩

theorem groups_of_reachable_account : ∃ catalog tree,
    Catalog.ofSchema Registry.standard namesSchema = .ok catalog ∧ Reachable catalog tree ∧
      tree.compile.template = "(UPPER(\"accounts\".\"name\") LIKE ?)" ∧
      Everywhere Telling tree := by
  have hparts : (treeOf namesSchema "Account" "name_upper_keywords" (.string "fox")).map
      (fun found => (found.2.compile.template, found.2.scope, found.2.relations.length)) =
        some ("(UPPER(\"accounts\".\"name\") LIKE ?)", none, 0) := by decide +kernel
  obtain ⟨⟨catalog, tree⟩, hfound, hparts⟩ := Option.map_eq_some_iff.mp hparts
  obtain ⟨htemplate, hrest⟩ := Prod.mk.inj hparts
  obtain ⟨hscope, hrelations⟩ := Prod.mk.inj hrest
  obtain ⟨hbuild, htree⟩ := reachable_of_treeOf hfound
  have hscopes : Everywhere (fun node => ∀ scope, node.scope = some scope → Solid scope) tree := by
    refine .mk (fun scope hsome => ?_) fun name child hmem => ?_
    · cases hscope.symm.trans hsome
    · rw [List.length_eq_zero_iff.mp hrelations] at hmem
      exact absurd hmem List.not_mem_nil
  have hgroups := (groups_of_reachable hbuild htree).2 (fun _ => Identifier.solid_quote) hscopes
  refine ⟨catalog, tree, hbuild, htree, htemplate, hgroups.mp ?_⟩
  rw [htemplate]
  decide

/-- An `ı` without a dot and an `s` are a keyword as they stand. In capitals they are a common word, and the condition says nothing. -/
theorem not_forall_template_ne_empty : ¬ ∀ (source : SchemaSource) (policies : List PolicyLists)
    (catalog : Catalog) (tree : ConditionTree),
    Catalog.build Registry.standard source policies = .ok catalog → Reachable catalog tree →
    ∀ key v, (key, v) ∈ tree.conditions → (key.compile v).template ≠ "" := by
  intro hall
  have hparts : (treeOf namesSchema "Account" "name_upper_keywords" (.string "\u0131s")).map
      (fun found => found.2.conditions.map fun condition =>
        (condition.1.compile condition.2).template) = some [""] := by decide +kernel
  obtain ⟨⟨catalog, tree⟩, hfound, hparts⟩ := Option.map_eq_some_iff.mp hparts
  obtain ⟨hbuild, htree⟩ := reachable_of_treeOf hfound
  obtain ⟨⟨key, v⟩, hmem, hempty⟩ : ∃ condition ∈ tree.conditions,
      (condition.1.compile condition.2).template = "" :=
    List.mem_map.mp (by rw [hparts]; exact List.mem_singleton.mpr rfl)
  exact hall _ _ catalog tree hbuild htree key v hmem hempty

end ConditionTree

end SearchFilter
