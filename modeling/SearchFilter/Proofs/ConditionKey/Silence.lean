import SearchFilter.Proofs.ConditionKey.Balance
import SearchFilter.Proofs.Fragment.Groups
import SearchFilter.Proofs.Keywords.TextChanges
/-!
# Conditions that say nothing

Every operation but the search for keywords writes something for every value. The search writes one clause for each keyword of the text that the modifiers make of the value, and nothing for a text without keywords. Coercion refuses such texts, but it looks at the value before the modifiers do.

The two can differ in one way: a modifier writes the text in capitals, and in capitals it has no keywords. Conditions of that sort are `Silent`. All others compile to solid templates, if the quoted names are solid.
-/

namespace SearchFilter

open Text

/-! ### Compilation -/

namespace Operation

variable {column : String} {v : Value} {operation : Operation}

theorem template_eq_empty_iff : (operation.compile column v).template = "" ↔
    operation = .keywords ∧ Keywords.tokens v.searchText = [] := by
  have hwritten : ∀ s t : String, t.toList ≠ [] → s ++ t ≠ "" := by
    intro s t hne heq
    have hnil : (s ++ t).toList = [] := by rw [heq]; rfl
    rw [String.toList_append] at hnil
    exact hne (List.append_eq_nil_iff.mp hnil).2
  cases operation with
  | keywords =>
    refine ⟨fun h => ⟨rfl, ?_⟩, fun h => ?_⟩
    · by_contra hne
      obtain ⟨word, words, hwords⟩ := List.exists_cons_of_ne_nil hne
      rw [compile, hwords, List.map_cons, Fragment.conjunction_cons, Fragment.append_template,
        keywordClause, String.append_assoc] at h
      refine hwritten _ _ ?_ h
      simp
    · rw [compile, h.2]
      rfl
  | compare operator => exact iff_of_false (hwritten _ _ (by decide)) (by simp)
  | pattern negated before after =>
    cases negated <;> exact iff_of_false (hwritten _ _ (by decide)) (by simp)
  | nullCheck negated =>
    refine iff_of_false (hwritten _ _ ?_) (by simp)
    split <;> decide
  | membership negated =>
    cases negated <;> exact iff_of_false (hwritten _ _ (by decide)) (by simp)
  | between => exact iff_of_false (hwritten _ _ (by decide)) (by simp)

end Operation

/-! ### Columns -/

theorem Identifier.solid_quote {s : String} (h : isValid s = true) : Solid (quote s) := by
  have hfree : ∀ c ∈ (quote s).toList, c = '"' ∨ isInner c = true :=
    fun c hc => (mem_quote hc).imp_right (isInner_of_mem h)
  refine solid_of_not_mem ?_ (fun hopen => ?_) fun hclose => ?_
  · intro heq
    have hnil : (quote s).toList = [] := by rw [heq]; rfl
    rw [quote, String.toList_ofList] at hnil
    cases hnil
  · exact absurd (hfree '(' hopen) (by decide)
  · exact absurd (hfree ')' hclose) (by decide)

namespace ConditionKey

variable {key : ConditionKey} {s : String}

/-! ### Silence -/

def textChanges (key : ConditionKey) : List TextChange := key.modifiers.filterMap (·.textChange)

theorem transform_string (key : ConditionKey) (s : String) :
    key.transform (.string s) = .string (TextChange.applyAll key.textChanges s) := by
  unfold transform textChanges
  induction key.modifiers generalizing s with
  | nil => rfl
  | cons modifier rest ih =>
    rw [List.foldl_cons, Modifier.transform]
    cases hchange : modifier.textChange with
    | none =>
      rw [List.filterMap_cons_none hchange]
      exact ih s
    | some change =>
      rw [List.filterMap_cons_some hchange]
      exact ih (change.apply s)

/-- The condition searches for keywords in capitals, and in capitals its text has none. -/
structure Silent (key : ConditionKey) (v : Value) : Prop where
  searches : key.kind.operation = .keywords
  capitals : .uppercase ∈ key.textChanges
  wordless : Keywords.tokens (Text.uppercase v.searchText) = []

theorem tokens_transform_ne_nil_iff (hsearches : key.kind.operation = .keywords)
    (hwords : Keywords.tokens s ≠ []) :
    Keywords.tokens (key.transform (.string s)).searchText ≠ [] ↔ ¬ key.Silent (.string s) := by
  rw [transform_string, Value.searchText, Keywords.tokens_applyAll_ne_nil_iff]
  split
  · rename_i hcapitals
    exact not_congr ⟨fun hwordless => ⟨hsearches, hcapitals, hwordless⟩, fun h => h.wordless⟩
  · rename_i hcapitals
    exact iff_of_true hwords fun h => hcapitals h.capitals

end ConditionKey

end SearchFilter
