import SearchFilter.Proofs.ConditionTree.Emptiness
import SearchFilter.Proofs.ConditionTree.Groups
import SearchFilter.Proofs.Fragment.Nesting
/-!
# The structure that a template shows

Without scopes, the template of a tree can be read back: cut at each ` AND ` outside of parentheses it falls into one piece for each active condition and one for each relationship that is not empty, and what stands in the parentheses of the latter is the template of the tree below.

Nothing that a condition writes has unbalanced parentheses: function calls and sets close what they open, and quoted names have none. So ranges and searches, which write ` AND ` themselves, stay in one piece inside the parentheses around their conditions.
-/

namespace SearchFilter

/-! ### Quoted names -/

namespace Identifier

/-- Valid names are quoted by putting the mark in front and behind. -/
def Encloses (mark : Char) (quote : String → String) : Prop :=
  ∀ name, isValid name = true → quote name = String.ofList (mark :: name.toList ++ [mark])

theorem doubled_eq_self {mark : Char} {s : List Char} (h : mark ∉ s) : doubled mark s = s := by
  induction s with
  | nil => rfl
  | cons c rest ih =>
    rw [List.mem_cons, not_or] at h
    rw [doubled, if_neg (Ne.symm h.1), ih h.2]

theorem encloses_quote : Encloses '"' quote := by
  intro name hvalid
  rw [quote, doubled_eq_self fun hmem => absurd (isInner_of_mem hvalid hmem) (by decide)]

theorem Encloses.nested {mark : Char} {quote : String → String} (h : Encloses mark quote)
    (hopen : '(' ≠ mark) (hclose : ')' ≠ mark) {name : String} (hvalid : isValid name = true) :
    Text.Nested (quote name) := by
  have hfree : ∀ c, isInner c = false → c ≠ mark → c ∉ (quote name).toList := by
    intro c hc hmark hmem
    rw [h name hvalid, String.toList_ofList, List.mem_append, List.mem_cons,
      List.mem_singleton] at hmem
    rcases hmem with (hmem | hmem) | hmem
    · exact hmark hmem
    · exact Bool.false_ne_true (hc.symm.trans (isInner_of_mem hvalid hmem))
    · exact hmark hmem
  exact Text.nested_of_not_mem (hfree '(' (by decide) hopen) (hfree ')' (by decide) hclose)

end Identifier

namespace ConditionTree

open Text

variable {source : SchemaSource} {catalog : Catalog} {tree : ConditionTree}
  {vocabulary : Vocabulary} {key : ConditionKey} {v : Value}

/-! ### Nested templates -/

theorem Stored.nested_compile (h : Stored catalog vocabulary key v)
    (hassembled : vocabulary.AssembledFrom Registry.standard source)
    (hquote : ∀ name : String, Identifier.isValid name = true → Nested (source.quote name)) :
    Nested (key.compile v).template := by
  obtain ⟨name, hkey⟩ := h.resolved
  exact hassembled.compile_of composes_nested hquote (by decide) (by decide) (by decide) hkey
    fun _ => .inr (by decide)

/-- The conditions of the node and the trees below it are nested texts. -/
structure NestedParts (tree : ConditionTree) : Prop where
  conditions : ∀ key v, (key, v) ∈ tree.conditions → Nested (key.compile v).template
  relations : ∀ name child, (name, child) ∈ tree.relations → Nested child.compile.template

theorem NestedParts.exists_nested (h : NestedParts tree) (hscope : tree.scope = none)
    {clause : Fragment} (hclause : clause ∈ tree.clauses) :
    ∃ inner : Fragment, Nested inner.template ∧ clause = inner.parenthesized := by
  rcases mem_clauses_iff.mp hclause with
    ⟨key, v, hmem, rfl⟩ | ⟨name, child, hmem, _, rfl⟩ | ⟨scope, hsome, _⟩
  · exact ⟨key.compile v, h.conditions key v hmem, rfl⟩
  · exact ⟨child.compile, h.relations name child hmem, rfl⟩
  · cases hscope.symm.trans hsome

theorem NestedParts.nested (h : NestedParts tree) (hscope : tree.scope = none) :
    Nested tree.compile.template := by
  refine Fragment.nested_conjunction fun clause hclause => ?_
  obtain ⟨inner, hinner, rfl⟩ := h.exists_nested hscope hclause
  exact hinner.parenthesized

theorem nestedParts (hbuilt : catalog.Built Registry.standard source)
    (hquote : ∀ name : String, Identifier.isValid name = true → Nested (source.quote name))
    (h : Everywhere (Consistent catalog) tree)
    (hscope : Everywhere (fun node => node.scope = none) tree) : Everywhere NestedParts tree := by
  induction h with
  | @mk tree here _ ih =>
    have hbelow : ∀ name child, (name, child) ∈ tree.relations → Everywhere NestedParts child :=
      fun name child hmem => ih name child hmem (hscope.inside hmem)
    refine .mk ⟨fun key v hmem => ?_, fun name child hmem => ?_⟩ hbelow
    · obtain ⟨hstored, hassembled⟩ := here.stored hbuilt hmem
      exact hstored.nested_compile hassembled hquote
    · exact (hbelow name child hmem).here.nested (hscope.inside hmem).here

/-! ### Pieces -/

/-- The template of the node shows its structure. -/
structure Structured (tree : ConditionTree) : Prop where
  nested : Nested tree.compile.template
  /-- Conditions come first, then relationships that are not empty. -/
  pieces : topPieces tree.compile.template =
    (tree.conditions.map fun (key, v) => "(" ++ (key.compile v).template ++ ")") ++
      (tree.relations.filter fun (_, child) => !child.isEmpty).map
        fun (_, child) => "(" ++ child.compile.template ++ ")"
  length : (topPieces tree.compile.template).length = tree.length

theorem NestedParts.structured (h : NestedParts tree) (hscope : tree.scope = none)
    (hconsistent : Everywhere (Consistent catalog) tree) : Structured tree := by
  have hpieces : topPieces tree.compile.template =
      (tree.conditions.map fun (key, v) => "(" ++ (key.compile v).template ++ ")") ++
        (tree.relations.filter fun (_, child) => !child.isEmpty).map
          fun (_, child) => "(" ++ child.compile.template ++ ")" := by
    have hwhole : ∀ clause ∈ tree.clauses, Whole clause.template := by
      intro clause hclause
      obtain ⟨inner, hinner, rfl⟩ := h.exists_nested hscope hclause
      exact hinner.whole_parenthesized
    rw [compile, Fragment.topPieces_conjunction hwhole hconsistent.here.clause_isEmpty, clauses_eq,
      relationClauses_eq, joined_eq hconsistent, hscope, scopeClause, List.append_nil,
      conditionClauses, List.map_append, List.map_map, List.map_map]
    rfl
  refine ⟨h.nested hscope, hpieces, ?_⟩
  rw [hpieces, length, hscope, List.length_append, List.length_map, List.length_map]
  rfl

/-- In a tree without scopes, every template has the boolean structure of its node. Cut outside of parentheses it is one piece for each condition and one for each relationship that is not empty, in the order in which they became active or were first followed. Names are quoted in the standard way or between backticks. -/
theorem structured_of_reachable {policies : List PolicyLists}
    (hbuild : Catalog.build Registry.standard source policies = .ok catalog)
    (hquote : source.quote = Identifier.quote ∨ Identifier.Encloses '\x60' source.quote)
    (htree : Reachable catalog tree)
    (hscope : Everywhere (fun node => node.scope = none) tree) :
    Everywhere (fun node => Structured node ∧ Ordered catalog node ∧ Unrepeated node) tree := by
  have hnested : ∀ name : String, Identifier.isValid name = true → Nested (source.quote name) := by
    intro name hvalid
    rcases hquote with hquote | hquote
    · rw [hquote]
      exact Identifier.encloses_quote.nested (by decide) (by decide) hvalid
    · exact hquote.nested (by decide) (by decide) hvalid
  have hparts := nestedParts (Catalog.built_of_build hbuild) hnested htree.consistent hscope
  have hnodes := (htree.consistent.subtrees.and hparts).and (hscope.and htree.unrepeated)
  exact hnodes.imp fun node ⟨⟨hconsistent, hparts⟩, hnone, hunrepeated⟩ =>
    ⟨hparts.structured hnone hconsistent, ordered catalog node, hunrepeated⟩

/-! ### Tasks -/

def taskSchema : Schema where
  definitions := [
    { name := "Task", columns := [⟨"effort", .integer⟩],
      relationships := [⟨"parent", "Task"⟩] }]

def taskSource : SchemaSource where
  __ := taskSchema.source
  quote name := String.ofList ('\x60' :: name.toList ++ ['\x60'])

/-- Ranges write ` AND ` themselves, and there are two conditions on the parent. -/
theorem structured_of_reachable_task : ∃ catalog tree,
    Catalog.build Registry.standard taskSource [] = .ok catalog ∧ Reachable catalog tree ∧
    topPieces tree.compile.template = ["(ABS(`tasks`.`effort`) BETWEEN ? AND ?)",
      "((`tasks`.`effort` IN (?)) AND (`tasks`.`effort` BETWEEN ? AND ?))"] ∧
    Everywhere (fun node => Structured node ∧ Ordered catalog node ∧ Unrepeated node) tree := by
  have hparts : ((Catalog.build Registry.standard taskSource []).toOption.bind fun catalog =>
      ((forEntity catalog "Task" false >>= ConditionTree.apply catalog
        (.mapping [("effort_absolute_between", .value (.array [.integer 1, .integer 5])),
          ("parent", .mapping [("effort_in", .value (.array [.integer 2])),
            ("effort_between", .value (.array [.integer 0, .integer 3]))])])).toOption.map
              fun tree => (catalog, tree))).map
        (fun found => (topPieces found.2.compile.template, found.2.all (·.scope.isNone))) =
      some (["(ABS(`tasks`.`effort`) BETWEEN ? AND ?)",
        "((`tasks`.`effort` IN (?)) AND (`tasks`.`effort` BETWEEN ? AND ?))"], true) := by
    decide +kernel
  obtain ⟨⟨catalog, tree⟩, hfound, hparts⟩ := Option.map_eq_some_iff.mp hparts
  obtain ⟨catalog', hbuild, hfound⟩ := Option.bind_eq_some_iff.mp hfound
  obtain ⟨tree', htree, hfound⟩ := Option.map_eq_some_iff.mp hfound
  obtain ⟨rfl, rfl⟩ := Prod.mk.inj hfound
  obtain ⟨hpieces, hall⟩ := Prod.mk.inj hparts
  rw [Outcome.toOption_eq_some_iff] at hbuild htree
  have hreachable := Reachable.of_apply htree
  have hscope : Everywhere (fun node => node.scope = none) tree' :=
    (everywhere_of_all hall).imp fun _ => Option.isNone_iff_eq_none.mp
  have hquote : Identifier.Encloses '\x60' taskSource.quote := fun _ _ => rfl
  exact ⟨catalog', tree', hbuild, hreachable, hpieces,
    structured_of_reachable hbuild (.inr hquote) hreachable hscope⟩

end ConditionTree

end SearchFilter
