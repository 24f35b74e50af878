import SearchFilter.Proofs.ConditionKey.Balance
import SearchFilter.Proofs.ConditionTree.Invariants
/-!
# Question marks of compiled trees

The fragment of a reachable tree binds as many values as it has question marks, and every question mark is matched with a value of the clause in which it stands.

The count is an induction over the tree: stored values fit the conditions they are stored under, scopes have no question marks, and the fragments of related trees are balanced by the hypothesis. For the matching it has to hold at every boundary between clauses, too, at whatever depth. What stands in front of a clause consists of whole clauses, connectives and opened parentheses, so it is balanced by the same facts.
-/

namespace SearchFilter

namespace ConditionTree

open Fragment

variable {registry : Registry} {source : SchemaSource} {catalog : Catalog} {tree : ConditionTree}

/-- The kinds and modifiers add no question marks of their own, and neither does quoting. -/
structure MarkFree (registry : Registry) (source : SchemaSource) (catalog : Catalog) : Prop where
  built : catalog.Built registry source
  plain : registry.Plain
  quote : ∀ s : String, '?' ∉ s.toList → '?' ∉ (source.quote s).toList

/-! ### Conditions -/

theorem Stored.fitsRange {vocabulary : Vocabulary} {key : ConditionKey} {v : Value}
    (h : Stored catalog vocabulary key v) (hregistry : registry.Plain)
    (hassembled : vocabulary.AssembledFrom registry source)
    (hbetween : key.kind.operation = .between) : v.FitsRange := by
  obtain ⟨name, hkey⟩ := h.resolved
  obtain ⟨name', other, u, hother, hname, _, hcoerce⟩ := h.coerced
  have hmade := hassembled.madeFrom hkey
  have hmade' := hassembled.madeFrom hother
  refine Operation.fitsRange_of_coerce hcoerce fun negated hmembership => ?_
  rw [hmade.name, hmade'.name] at hname
  exact hregistry.canonicalName_ne hmade.kind hmade'.kind hbetween hmembership _ _ hname.symm

theorem Stored.balanced_compile {vocabulary : Vocabulary} {key : ConditionKey} {v : Value}
    (h : Stored catalog vocabulary key v) (hfree : MarkFree registry source catalog)
    (hassembled : vocabulary.AssembledFrom registry source) : (key.compile v).Balanced := by
  obtain ⟨name, hkey⟩ := h.resolved
  have hmade := hassembled.madeFrom hkey
  have hcolumn := ConditionKey.columnRef_mark_free hfree.quote hassembled hmade.column
  have hwrapped := ConditionKey.wrappedColumn_mark_free hfree.plain hmade hcolumn
  have hoperator := hfree.plain.operator_free hmade.kind
  refine Operation.balanced_compile hwrapped hoperator fun hbetween => ?_
  exact ConditionKey.transform_fitsRange (h.fitsRange hfree.plain hassembled hbetween)

/-! ### Clauses -/

theorem Consistent.balanced_clauses (h : Consistent catalog tree)
    (hfree : MarkFree registry source catalog)
    (hbelow : ∀ name child, (name, child) ∈ tree.relations → child.compile.Balanced) :
    ∀ clause ∈ tree.clauses, clause.Balanced := by
  intro clause hclause
  rcases mem_clauses_iff.mp hclause with
    ⟨key, v, hmem, rfl⟩ | ⟨name, child, hmem, _, rfl⟩ | ⟨scope, hsome, rfl⟩
  · obtain ⟨hstored, hassembled⟩ := h.stored hfree.built hmem
    exact (hstored.balanced_compile hfree hassembled).parenthesized
  · exact (hbelow name child hmem).parenthesized
  · have hmark := (h.scope scope hsome).2
    exact balanced_text (by simpa using hmark)

theorem balanced_compile (h : Everywhere (Consistent catalog) tree)
    (hfree : MarkFree registry source catalog) : tree.compile.Balanced := by
  induction h with
  | mk here _ ih => exact balanced_conjunction (here.balanced_clauses hfree ih)

theorem balanced_of_mem_clauses (h : Everywhere (Consistent catalog) tree)
    (hfree : MarkFree registry source catalog) :
    ∀ clause ∈ tree.clauses, clause.Balanced :=
  h.here.balanced_clauses hfree fun _ _ hmem => balanced_compile (h.inside hmem) hfree

theorem ClauseAt.balanced {left clause right : Fragment} (hclause : ClauseAt tree left clause right)
    (h : Everywhere (Consistent catalog) tree) (hfree : MarkFree registry source catalog) :
    left.Balanced ∧ clause.Balanced := by
  induction hclause with
  | @own tree before after clause hclauses =>
    have hall := balanced_of_mem_clauses h hfree
    rw [hclauses] at hall
    have hbefore := balanced_leading fun other hmem => hall other (List.mem_append_left _ hmem)
    exact ⟨hbefore, hall clause (List.mem_append_right _ List.mem_cons_self)⟩
  | @inside tree child name before after left clause right hchild hnonempty _ ih =>
    have hmem : (name, child) ∈ tree.relations := by
      rw [hchild]
      exact List.mem_append_right _ List.mem_cons_self
    have hall := balanced_of_mem_clauses h hfree
    rw [clauses_eq_of_relation hchild hnonempty] at hall
    have hbefore := balanced_leading fun other hmem => hall other (List.mem_append_left _ hmem)
    have hopen : (text "(").Balanced := balanced_text (by decide)
    obtain ⟨hleft, hclause⟩ := ih (h.inside hmem)
    exact ⟨(hbefore.append hopen).append hleft, hclause⟩

/-! ### Reachable trees -/

/-- A compiled tree has a question mark for every value. Wherever a clause stands in it, the values bound so far are as many as the question marks so far, and the question marks of the clause are those that its own values are matched with. -/
theorem placeholders_of_reachable {policies : List PolicyLists}
    (hbuild : Catalog.build registry source policies = .ok catalog) (hregistry : registry.Plain)
    (hquote : ∀ s : String, '?' ∉ s.toList → '?' ∉ (source.quote s).toList)
    (htree : Reachable catalog tree) :
    tree.compile.placeholders = tree.compile.binds.length ∧
      ∀ left clause right, ClauseAt tree left clause right →
        tree.compile = left ++ clause ++ right ∧
        left.placeholders = left.binds.length ∧
        (left ++ clause).placeholders = (left ++ clause).binds.length ∧
        ∀ p, tree.compile.MarkAt p →
          ((left.template.length ≤ p ∧ p < left.template.length + clause.template.length) ↔
            (left.binds.length ≤ tree.compile.ordinal p ∧
              tree.compile.ordinal p < left.binds.length + clause.binds.length)) := by
  have hfree : MarkFree registry source catalog :=
    ⟨Catalog.built_of_build hbuild, hregistry, hquote⟩
  have hconsistent := htree.consistent
  refine ⟨balanced_compile hconsistent hfree, fun left clause right hclause => ?_⟩
  have heq := hclause.compile_eq
  obtain ⟨hleft, hbalanced⟩ := hclause.balanced hconsistent hfree
  refine ⟨heq, hleft, hleft.append hbalanced, fun p hp => ?_⟩
  rw [heq] at hp ⊢
  exact hleft.owns_iff hbalanced hp

/-- A key of a user and a flag of the author of the posts. -/
theorem placeholders_of_reachable_blog :
    ∃ start tree, forEntity Catalog.blog "User" false = .ok start ∧
      start.apply Catalog.blog (.mapping [("key", .value (.string "?")),
        ("posts", .mapping [("author", .mapping [("key_is_null", .value (.bool true))])])]) =
        .ok tree ∧
      Reachable Catalog.blog tree ∧ tree.compile.placeholders = tree.compile.binds.length := by
  have hok : (forEntity Catalog.blog "User" false >>= fun start =>
      start.apply Catalog.blog (.mapping [("key", .value (.string "?")),
        ("posts", .mapping [("author",
          .mapping [("key_is_null", .value (.bool true))])])])).isOk = true := by
    decide +kernel
  obtain ⟨tree, htree⟩ := Outcome.exists_of_isOk hok
  obtain ⟨start, hstart, happly⟩ := Outcome.bind_eq_ok_iff.mp htree
  have hreachable : Reachable Catalog.blog tree := (Reachable.start hstart).run (.apply _) happly
  have hplain : Registry.standard.Plain :=
    ⟨fun _ hkind => .inl hkind, fun _ hmodifier => .inl hmodifier⟩
  have hquote : ∀ s : String, '?' ∉ s.toList → '?' ∉ (Catalog.blogSchema.source.quote s).toList :=
    fun s hs => Identifier.quote_mark_free hs
  exact ⟨start, tree, hstart, happly, hreachable,
    (placeholders_of_reachable Catalog.ofSchema_blogSchema hplain hquote hreachable).1⟩

end ConditionTree

end SearchFilter
