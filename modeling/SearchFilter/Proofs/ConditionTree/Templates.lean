import Mathlib.Data.List.Forall2
import SearchFilter.Proofs.ConditionTree.Invariants
import SearchFilter.Proofs.Fragment.Clauses
/-!
# Templates depend on shapes

Which values a tree holds cannot be read off the template that it is compiled to. Two trees of one entity without scopes have the same template if their conditions have the same columns, modifiers and kinds in the same order, at every node, and the nodes follow the same relationships in the same order. Two sorts of values have a part in the template, each in one respect: flags of null checks choose between two texts, and the number of keywords says how often a text is repeated. Both are required to agree.

The requirements on conditions are relations of pairs of conditions, and `Corresponding` carries any such relation to trees.
-/

namespace SearchFilter

/-! ### Templates of conditions -/

namespace Operation

variable {operation : Operation} {column : String} {v w : Value}

theorem asksForNull_of_ne (negated : Bool) (h : v ≠ .bool true) :
    asksForNull negated v = negated := by
  unfold asksForNull
  split
  · exact absurd rfl h
  · rfl

theorem asksForNull_eq (negated : Bool) (h : v = .bool true ↔ w = .bool true) :
    asksForNull negated v = asksForNull negated w := by
  by_cases hv : v = .bool true
  · rw [hv, h.mp hv]
  · have hw : w ≠ .bool true := fun hw => hv (h.mpr hw)
    rw [asksForNull_of_ne negated hv, asksForNull_of_ne negated hw]

theorem keywords_template (column : String) (words : List String) :
    (Fragment.conjunction (words.map (keywordClause column))).template =
      " AND ".intercalate (List.replicate words.length (column ++ " LIKE ?")) := by
  have htemplates : (words.map (keywordClause column)).map Fragment.template =
      List.replicate words.length (column ++ " LIKE ?") := by
    rw [List.map_map, List.eq_replicate_iff]
    refine ⟨List.length_map .., fun text htext => ?_⟩
    obtain ⟨word, _, rfl⟩ := List.mem_map.mp htext
    rfl
  rw [Fragment.conjunction, htemplates]

/-- Only a flag and a number of keywords can be seen in a template. -/
theorem template_eq
    (hflag : ∀ negated, operation = .nullCheck negated → (v = .bool true ↔ w = .bool true))
    (hcount : operation = .keywords →
      (Keywords.tokens v.searchText).length = (Keywords.tokens w.searchText).length) :
    (operation.compile column v).template = (operation.compile column w).template := by
  cases operation with
  | nullCheck negated =>
    have hasks := asksForNull_eq negated (hflag negated rfl)
    rw [compile, compile, hasks]
  | keywords => rw [compile, compile, keywords_template, keywords_template, hcount rfl]
  | compare _ | pattern _ _ _ | membership _ | between => rfl

end Operation

namespace ConditionKey

variable {v w : Value}

theorem transform_eq_bool_iff (key : ConditionKey) (b : Bool) :
    key.transform v = .bool b ↔ v = .bool b := by
  have hstep : ∀ (modifier : Modifier) (v : Value),
      modifier.transform v = .bool b ↔ v = .bool b := by
    intro modifier v
    unfold Modifier.transform
    split
    · cases v <;> simp [Value.mapText]
    · rfl
  unfold transform
  induction key.modifiers generalizing v with
  | nil => rfl
  | cons modifier rest ih => exact ih.trans (hstep modifier v)

end ConditionKey

namespace ConditionTree

/-! ### Corresponding trees -/

mutual

/-- The conditions of two trees are related one by one, and so are those of the trees that the same relationships lead to in both. -/
def Corresponding (R : ConditionKey × Value → ConditionKey × Value → Prop) :
    ConditionTree → ConditionTree → Prop
  | ⟨_, conditions, relations, _, _⟩, other =>
    List.Forall₂ R conditions other.conditions ∧ CorrespondingRelations R relations other.relations

def CorrespondingRelations (R : ConditionKey × Value → ConditionKey × Value → Prop) :
    List (String × ConditionTree) → List (String × ConditionTree) → Prop
  | [], [] => True
  | (name, child) :: rest, (name', child') :: rest' =>
    name = name' ∧ Corresponding R child child' ∧ CorrespondingRelations R rest rest'
  | [], _ :: _ => False
  | _ :: _, [] => False

end

/-- Two conditions have the same parts. If they are null checks they ask for the same, and if they search for keywords then as many are left of the texts that the modifiers give. -/
structure Alike (first second : ConditionKey × Value) : Prop where
  column : first.1.column = second.1.column
  modifiers : first.1.modifiers = second.1.modifiers
  kind : first.1.kind = second.1.kind
  flag : ∀ negated, first.1.kind.operation = .nullCheck negated →
    (first.2 = .bool true ↔ second.2 = .bool true)
  keywordCount : first.1.kind.operation = .keywords →
    (Keywords.tokens (first.1.transform first.2).searchText).length =
      (Keywords.tokens (second.1.transform second.2).searchText).length

variable {registry : Registry} {source : SchemaSource} {catalog : Catalog}
  {first second : ConditionTree}
  {R : ConditionKey × Value → ConditionKey × Value → Prop}

theorem corresponding_iff :
    Corresponding R first second ↔
      List.Forall₂ R first.conditions second.conditions ∧
        CorrespondingRelations R first.relations second.relations := by
  cases first
  rw [Corresponding]

/-! ### Templates of trees -/

theorem wrappedColumn_eq {vocabulary : Vocabulary}
    (hassembled : vocabulary.AssembledFrom registry source) {key key' : ConditionKey}
    {name name' : String} (hkey : vocabulary.resolve? name = some key)
    (hkey' : vocabulary.resolve? name' = some key') (hcolumn : key.column = key'.column)
    (hmodifiers : key.modifiers = key'.modifiers) : key.wrappedColumn = key'.wrappedColumn := by
  have hmem := (hassembled.madeFrom hkey).column
  have hmem' := (hassembled.madeFrom hkey').column
  rw [← hcolumn] at hmem'
  have htext := hassembled.columnRef_eq hmem hmem'
  unfold ConditionKey.wrappedColumn
  rw [htext, hmodifiers]

theorem compile_template_eq {vocabulary : Vocabulary}
    (hassembled : vocabulary.AssembledFrom registry source) {key key' : ConditionKey}
    {v v' : Value} (hstored : Stored catalog vocabulary key v)
    (hstored' : Stored catalog vocabulary key' v') (halike : Alike (key, v) (key', v')) :
    (key.compile v).template = (key'.compile v').template := by
  obtain ⟨name, hkey⟩ := hstored.resolved
  obtain ⟨name', hkey'⟩ := hstored'.resolved
  have hcolumn := wrappedColumn_eq hassembled hkey hkey' halike.column halike.modifiers
  have hkind : key.kind = key'.kind := halike.kind
  unfold ConditionKey.compile Kind.compile
  rw [hcolumn, ← hkind]
  refine Operation.template_eq (fun negated hcheck => ?_) halike.keywordCount
  rw [ConditionKey.transform_eq_bool_iff, ConditionKey.transform_eq_bool_iff]
  exact halike.flag negated hcheck

theorem conditionClauses_template_eq {vocabulary : Vocabulary}
    (hassembled : vocabulary.AssembledFrom registry source)
    {conditions conditions' : List (ConditionKey × Value)}
    (halike : List.Forall₂ Alike conditions conditions')
    (hstored : ∀ key v, (key, v) ∈ conditions → Stored catalog vocabulary key v)
    (hstored' : ∀ key v, (key, v) ∈ conditions' → Stored catalog vocabulary key v) :
    (conditionClauses conditions).map Fragment.template =
      (conditionClauses conditions').map Fragment.template := by
  induction halike with
  | nil => rfl
  | @cons condition condition' rest rest' hhead _ ih =>
    obtain ⟨key, v⟩ := condition
    obtain ⟨key', v'⟩ := condition'
    have hclause := compile_template_eq hassembled (hstored key v List.mem_cons_self)
      (hstored' key' v' List.mem_cons_self) hhead
    have hrest := ih (fun other w hmem => hstored other w (List.mem_cons_of_mem _ hmem))
      (fun other w hmem => hstored' other w (List.mem_cons_of_mem _ hmem))
    simp only [conditionClauses, List.map_cons, Fragment.parenthesized, hclause] at hrest ⊢
    rw [hrest]

/-- The clauses of relationships have the same templates if the related trees have. In particular the same ones are empty. -/
theorem relationClauses_template_eq {relations relations' : List (String × ConditionTree)}
    (h : CorrespondingRelations R relations relations')
    (hbelow : ∀ name child child', (name, child) ∈ relations → (name, child') ∈ relations' →
      Corresponding R child child' → child.compile.template = child'.compile.template) :
    (relationClauses relations).map Fragment.template =
      (relationClauses relations').map Fragment.template := by
  induction relations generalizing relations' with
  | nil =>
    cases relations' with
    | nil => rfl
    | cons pair' rest' => exact h.elim
  | cons pair rest ih =>
    cases relations' with
    | nil => exact h.elim
    | cons pair' rest' =>
      obtain ⟨name, child⟩ := pair
      obtain ⟨name', child'⟩ := pair'
      obtain ⟨rfl, hchild, hrest⟩ := h
      have htemplate := hbelow name child child' List.mem_cons_self List.mem_cons_self hchild
      have hclauses := ih hrest fun other below below' hmem hmem' =>
        hbelow other below below' (List.mem_cons_of_mem _ hmem) (List.mem_cons_of_mem _ hmem')
      have hempty : child.compile.isEmpty = child'.compile.isEmpty := by
        unfold Fragment.isEmpty
        rw [htemplate]
      rw [relationClauses_cons, relationClauses_cons, hempty]
      split
      · exact hclauses
      · simp only [List.map_cons, Fragment.parenthesized, htemplate, hclauses]

theorem compile_template_eq_of_corresponding (hbuilt : catalog.Built registry source)
    (hfirst : Everywhere (Consistent catalog) first)
    (hsecond : Everywhere (Consistent catalog) second)
    (hscope : Everywhere (fun node => node.scope = none) first)
    (hscope' : Everywhere (fun node => node.scope = none) second)
    (hvocabulary : first.vocabulary = second.vocabulary) (h : Corresponding Alike first second) :
    first.compile.template = second.compile.template := by
  induction hfirst generalizing second with
  | @mk first here _ ih =>
    obtain ⟨hconditions, hrelations⟩ := corresponding_iff.mp h
    have hstored' := hsecond.here.conditions
    rw [← hvocabulary] at hstored'
    have hown := conditionClauses_template_eq (here.assembled hbuilt) hconditions here.conditions
      hstored'
    have hbelow : (relationClauses first.relations).map Fragment.template =
        (relationClauses second.relations).map Fragment.template := by
      refine relationClauses_template_eq hrelations fun name child child' hmem hmem' hchild => ?_
      -- the relationship has one target, so both trees below belong to the same entity
      obtain ⟨relationship, hrelationship, htarget⟩ := here.relations name child hmem
      obtain ⟨relationship', hrelationship', htarget'⟩ := hsecond.here.relations name child' hmem'
      rw [← hvocabulary] at hrelationship'
      cases hrelationship.symm.trans hrelationship'
      have hsame : child.vocabulary = child'.vocabulary :=
        Option.some.inj (htarget.symm.trans htarget')
      exact ih name child hmem (hsecond.inside hmem') (hscope.inside hmem)
        (hscope'.inside hmem') hsame hchild
    have hnone : scopeClause first.scope = [] := by rw [hscope.here, scopeClause]
    have hnone' : scopeClause second.scope = [] := by rw [hscope'.here, scopeClause]
    unfold compile Fragment.conjunction
    rw [clauses_eq, clauses_eq, hnone, hnone', List.map_append, List.map_append, List.map_append,
      List.map_append, hown, hbelow]

/-- Reachable trees of one entity without scopes have the same template if their conditions are alike and they follow the same relationships. -/
theorem template_eq_of_corresponding {policies : List PolicyLists}
    (hbuild : Catalog.build registry source policies = .ok catalog)
    (hfirst : Reachable catalog first) (hsecond : Reachable catalog second)
    (hscope : Everywhere (fun node => node.scope = none) first)
    (hscope' : Everywhere (fun node => node.scope = none) second)
    (hentity : first.entity = second.entity) (h : Corresponding Alike first second) :
    first.compile.template = second.compile.template := by
  have hconsistent := hfirst.consistent
  have hconsistent' := hsecond.consistent
  have hvocabulary : first.vocabulary = second.vocabulary := by
    have hfound := hconsistent.here.vocabulary
    rw [hentity, hconsistent'.here.vocabulary] at hfound
    exact (Option.some.inj hfound).symm
  exact compile_template_eq_of_corresponding (Catalog.built_of_build hbuild) hconsistent
    hconsistent' hscope hscope' hvocabulary h

/-- Two keys of a user, the second of which would end the text and the condition if it stood in the template. -/
theorem template_eq_of_corresponding_blog :
    ∃ first second, Reachable Catalog.blog first ∧ Reachable Catalog.blog second ∧
      first.conditions.map Prod.snd = [.string "a"] ∧
      second.conditions.map Prod.snd = [.string "' OR '1' = '1"] ∧
      first.compile.template = second.compile.template := by
  obtain ⟨user, _, huser, _⟩ := Catalog.blog_vocabularies
  have hparts : ((Catalog.blog.vocabulary? "User").bind fun user =>
      (user.resolve? "key").map fun key => (key.kind, key.valueType)) =
        some (Kind.equals, .binary) := by
    decide +kernel
  rw [huser, Option.bind_some] at hparts
  obtain ⟨key, hkey, hkind⟩ := Option.map_eq_some_iff.mp hparts
  obtain ⟨hkind, htype⟩ := Prod.mk.inj hkind
  have hstart := forEntity_eq_ok huser false
  have hset : ∀ s, (Change.set "key" (.string s)).run Catalog.blog (fresh user false) =
      .ok { fresh user false with conditions := [(key, .string s)] } := by
    intro s
    have hresolve : (fresh user false).resolve "key" = .ok key := resolve_eq_ok_iff.mpr hkey
    show (fresh user false).set Catalog.blog "key" (.string s) = _
    rw [set, hresolve, Outcome.ok_bind, assign, hkind, htype]
    rfl
  have hscope : ∀ s, Everywhere (fun node => node.scope = none)
      { fresh user false with conditions := [(key, .string s)] } :=
    fun s => .mk rfl fun _ _ hmem => absurd hmem List.not_mem_nil
  have halike : Alike (key, .string "a") (key, .string "' OR '1' = '1") := by
    refine ⟨rfl, rfl, rfl, fun negated hcheck => ?_, fun hwords => ?_⟩
    · rw [hkind] at hcheck
      cases hcheck
    · rw [hkind] at hwords
      cases hwords
  have hfirst := Reachable.run _ (.start hstart) (hset "a")
  have hsecond := Reachable.run _ (.start hstart) (hset "' OR '1' = '1")
  exact ⟨_, _, hfirst, hsecond, rfl, rfl,
    template_eq_of_corresponding Catalog.ofSchema_blogSchema hfirst hsecond (hscope _) (hscope _)
      rfl (corresponding_iff.mpr ⟨.cons halike .nil, trivial⟩)⟩

end ConditionTree

end SearchFilter
