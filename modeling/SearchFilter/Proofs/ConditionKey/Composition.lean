import SearchFilter.Proofs.Fragment.Clauses
import SearchFilter.Proofs.Text.Parts
import SearchFilter.Proofs.Vocabulary.Keys
/-!
# The texts that conditions are made of

A condition compiles to a text that is put together from quoted names, from what the modifiers and the operators of the registry bring along, and from a few fixed texts. So a property that such parts have and that putting together keeps is one of the compiled condition. Modifiers that call functions need it for texts in parentheses, too.
-/

namespace SearchFilter

open Text

def Operation.operator : Operation → String
  | compare operator => operator
  | _ => ""

/-- What a wrapper adds to a column, apart from punctuation and keywords. -/
def Wrapper.sql : Wrapper → String
  | call function => function
  | extract part => part
  | unchanged => ""

/-- The texts that operations put behind a column or between clauses. -/
def Operation.texts : List String :=
  [" ", " ?", " LIKE ?", " NOT LIKE ?", " IS NULL", " IS NOT NULL", " IN (?)", " NOT IN (?)",
    " BETWEEN ? AND ?", " AND "]

variable {P : String → Prop} (hP : Composes P)
include hP

/-! ### Columns -/

theorem Vocabulary.AssembledFrom.text_of {registry : Registry} {source : SchemaSource}
    {vocabulary : Vocabulary} (hdot : P ".")
    (hquote : ∀ name : String, Identifier.isValid name = true → P (source.quote name))
    (h : vocabulary.AssembledFrom registry source) {column : ColumnRef}
    (hcolumn : column ∈ vocabulary.columns) : P column.text := by
  obtain ⟨table, name, htable, hname, htext⟩ := h.exists_text_eq hcolumn
  rw [htext]
  exact hP.append (hP.append (hquote table htable) hdot) (hquote name hname)

theorem Modifier.wrap_of (hextract : P "EXTRACT") (hfrom : P " FROM ") {modifier : Modifier}
    {column : String} (hsql : P modifier.wrapper.sql) (hcolumn : P column) :
    P (modifier.wrap column) := by
  unfold Modifier.wrap
  cases hwrapper : modifier.wrapper with
  | call function =>
    rw [hwrapper, Wrapper.sql] at hsql
    have hcall := hP.append hsql (hP.parenthesized hcolumn)
    rwa [← String.append_assoc, ← String.append_assoc] at hcall
  | extract part =>
    rw [hwrapper, Wrapper.sql] at hsql
    have hinner := hP.append (hP.append hsql hfrom) hcolumn
    have hcall := hP.append hextract (hP.parenthesized hinner)
    have heq : "EXTRACT" ++ ("(" ++ (part ++ " FROM " ++ column) ++ ")") =
        "EXTRACT(" ++ part ++ " FROM " ++ column ++ ")" := by simp [← String.toList_inj]
    rwa [heq] at hcall
  | unchanged => exact hcolumn

theorem ConditionKey.wrappedColumn_of (hextract : P "EXTRACT") (hfrom : P " FROM ")
    {registry : Registry} (hsql : ∀ modifier ∈ registry.modifiers, P modifier.wrapper.sql)
    {columns : List ColumnRef} {key : ConditionKey} (hkey : key.MadeFrom columns registry)
    (hcolumn : P key.columnRef) : P key.wrappedColumn :=
  hkey.wrappedColumn_induction
    (fun modifier hmodifier _ => Modifier.wrap_of hP hextract hfrom (hsql modifier hmodifier))
    hcolumn

/-! ### Compilation -/

theorem Operation.compile_of (htexts : ∀ text ∈ texts, P text) {operation : Operation}
    {column : String} {v : Value} (hcolumn : P column)
    (hoperator : ∀ operator, operation = .compare operator → P operator)
    (hwords : operation = .keywords → Keywords.tokens v.searchText ≠ [] ∨ P "") :
    P (operation.compile column v).template := by
  have hbehind : ∀ text ∈ texts, P (column ++ text) :=
    fun text htext => hP.append hcolumn (htexts text htext)
  cases operation with
  | compare operator =>
    exact hP.append (hP.append (hbehind " " (by decide)) (hoperator operator rfl))
      (htexts " ?" (by decide))
  | pattern negated before after =>
    cases negated
    · exact hbehind " LIKE ?" (by decide)
    · exact hbehind " NOT LIKE ?" (by decide)
  | nullCheck negated =>
    rw [compile]
    split
    · exact hbehind " IS NULL" (by decide)
    · exact hbehind " IS NOT NULL" (by decide)
  | membership negated =>
    cases negated
    · exact hbehind " IN (?)" (by decide)
    · exact hbehind " NOT IN (?)" (by decide)
  | keywords =>
    rw [compile, Fragment.conjunction, List.map_map]
    by_cases hnone : Keywords.tokens v.searchText = []
    · rw [hnone]
      exact (hwords rfl).resolve_left (absurd hnone)
    · refine hP.intercalate (htexts " AND " (by decide)) (by simpa using hnone) fun text htext => ?_
      obtain ⟨word, _, rfl⟩ := List.mem_map.mp htext
      exact hbehind " LIKE ?" (by decide)
  | between => exact hbehind " BETWEEN ? AND ?" (by decide)

/-- A condition is made of quoted names, of texts of the registry and of fixed texts. A search without keywords is an empty text. -/
theorem Vocabulary.AssembledFrom.compile_of {registry : Registry} {source : SchemaSource}
    {vocabulary : Vocabulary} (h : vocabulary.AssembledFrom registry source)
    (hquote : ∀ name : String, Identifier.isValid name = true → P (source.quote name))
    (hoperators : ∀ kind ∈ registry.kinds, kind.operation = .compare kind.operation.operator →
      P kind.operation.operator)
    (hsql : ∀ modifier ∈ registry.modifiers, P modifier.wrapper.sql)
    (hfixed : ∀ text ∈ "." :: "EXTRACT" :: " FROM " :: Operation.texts, P text)
    {name : String} {key : ConditionKey} (hkey : vocabulary.resolve? name = some key) {v : Value}
    (hwords : key.kind.operation = .keywords →
      Keywords.tokens (key.transform v).searchText ≠ [] ∨ P "") :
    P (key.compile v).template := by
  have hmade := h.madeFrom hkey
  have hcolumn := h.text_of hP (hfixed "." (by decide)) hquote hmade.column
  have hwrapped := ConditionKey.wrappedColumn_of hP (hfixed "EXTRACT" (by decide))
    (hfixed " FROM " (by decide)) hsql hmade hcolumn
  refine Operation.compile_of hP (fun text htext => hfixed text ?_) hwrapped
    (fun operator hcompare => ?_) hwords
  · exact List.mem_cons_of_mem _ (List.mem_cons_of_mem _ (List.mem_cons_of_mem _ htext))
  · have hoperator := hoperators key.kind hmade.kind (by rw [hcompare]; rfl)
    rwa [hcompare, Operation.operator] at hoperator

end SearchFilter
