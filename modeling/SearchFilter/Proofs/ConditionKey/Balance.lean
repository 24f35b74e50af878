import SearchFilter.Proofs.ConditionKey.Composition
import SearchFilter.Proofs.Fragment.Balance
import SearchFilter.Proofs.Value.Coerced
/-!
# Conditions bind a value for every question mark

Each operation writes its own number of question marks: none for a null check, one for a comparison, a pattern or a whole set, two for a range and one for each keyword. The values it binds are as many by definition, except for a range, which binds the items of a list. So the range needs a list of two items. Its own coercion sees to that, but a condition may hold a value that was coerced for another key of the same canonical name. `fitsRange_of_coerce` covers every coercion but that of sets, and `canonicalName_ne` shows that a set and a range never share a canonical name.

Columns are free of question marks because identifiers are, and the modifiers around them have none in what they add. The registry is asked for no more than `Registry.Plain`.
-/

namespace SearchFilter

/-! ### The texts of a registry -/

/-- A kind that compares the column with the value and binds the value alone. -/
def Kind.IsComparison (kind : Kind) : Prop := ∃ operator, kind.operation = .compare operator

/-- Beyond the standard kinds and modifiers there are comparisons and further modifiers, and none of these has a question mark in its own text. -/
structure Registry.Plain (registry : Registry) : Prop where
  kinds : ∀ kind ∈ registry.kinds,
    kind ∈ Kind.standard ∨ kind.IsComparison ∧ '?' ∉ kind.operation.operator.toList
  modifiers : ∀ modifier ∈ registry.modifiers,
    modifier ∈ Modifier.standard ∨ '?' ∉ modifier.wrapper.sql.toList

namespace Registry.Plain

variable {registry : Registry} {kind other : Kind}

theorem operator_free (h : registry.Plain) (hkind : kind ∈ registry.kinds) :
    '?' ∉ kind.operation.operator.toList := by
  have hstandard : ∀ kind ∈ Kind.standard, '?' ∉ kind.operation.operator.toList := by decide
  rcases h.kinds kind hkind with hmem | ⟨_, hfree⟩
  · exact hstandard kind hmem
  · exact hfree

theorem sql_free (h : registry.Plain) {modifier : Modifier}
    (hmodifier : modifier ∈ registry.modifiers) : '?' ∉ modifier.wrapper.sql.toList := by
  have hstandard : ∀ modifier ∈ Modifier.standard, '?' ∉ modifier.wrapper.sql.toList := by decide
  rcases h.modifiers modifier hmodifier with hmem | hfree
  · exact hstandard modifier hmem
  · exact hfree

theorem mem_standard (h : registry.Plain) (hkind : kind ∈ registry.kinds)
    (hother : ¬ kind.IsComparison) : kind ∈ Kind.standard := by
  rcases h.kinds kind hkind with hmem | ⟨hcompare, _⟩
  · exact hmem
  · exact absurd hcompare hother

theorem name_of_between (h : registry.Plain) (hkind : kind ∈ registry.kinds)
    (hoperation : kind.operation = .between) : kind.name = "between" := by
  have hstandard : ∀ kind ∈ Kind.standard,
      kind.operation = .between → kind.name = "between" := by decide
  refine hstandard kind (h.mem_standard hkind ?_) hoperation
  rintro ⟨operator, hcompare⟩
  cases hoperation.symm.trans hcompare

theorem name_of_membership (h : registry.Plain) (hkind : kind ∈ registry.kinds) {negated : Bool}
    (hoperation : kind.operation = .membership negated) :
    kind.name = "in" ∨ kind.name = "not_in" := by
  have hstandard : ∀ kind ∈ Kind.standard, ∀ negated, kind.operation = .membership negated →
      kind.name = "in" ∨ kind.name = "not_in" := by decide
  refine hstandard kind (h.mem_standard hkind ?_) negated hoperation
  rintro ⟨operator, hcompare⟩
  cases hoperation.symm.trans hcompare

theorem canonicalName_ne (h : registry.Plain) (hkind : kind ∈ registry.kinds)
    (hother : other ∈ registry.kinds) (hbetween : kind.operation = .between) {negated : Bool}
    (hmembership : other.operation = .membership negated) (column column' : String) :
    kind.canonicalName column ≠ other.canonicalName column' := by
  intro heq
  have hends : (kind.canonicalName column).toList.reverse =
      (other.canonicalName column').toList.reverse := by rw [heq]
  unfold Kind.canonicalName at hends
  rw [h.name_of_between hkind hbetween] at hends
  rcases h.name_of_membership hother hmembership with hname | hname
  · rw [hname] at hends
    simp at hends
  · rw [hname] at hends
    simp at hends

end Registry.Plain

/-! ### Values of ranges -/

namespace Value

variable {v : Value}

/-- A list has the two items that a range binds. Values that are no lists serve as both bounds. -/
def FitsRange (v : Value) : Prop := ∀ items, v = array items → items.length = 2

theorem mapTextItems_eq_map (f : String → String) (items : List Value) :
    mapTextItems f items = items.map (mapText f) := by
  induction items with
  | nil => rfl
  | cons item rest ih => rw [mapTextItems, ih, List.map_cons]

theorem FitsRange.mapText (h : v.FitsRange) (f : String → String) : (v.mapText f).FitsRange := by
  intro items heq
  cases v with
  | array items' =>
    rw [Value.mapText] at heq
    cases heq
    rw [mapTextItems_eq_map, List.length_map]
    exact h items' rfl
  | null | bool _ | integer _ | float _ | string _ | timestamp _ =>
    rw [Value.mapText] at heq <;> cases heq

theorem FitsRange.bounds_length (h : v.FitsRange) : (Operation.bounds v).length = 2 := by
  cases v with
  | array items => exact h items rfl
  | null | bool _ | integer _ | float _ | string _ | timestamp _ => rfl

end Value

/-- Only the coercion of a set can give a list that does not fit a range. -/
theorem Operation.fitsRange_of_coerce {parseTemporal : String → Option Timestamp}
    {type : SemanticType} {v w : Value} {operation : Operation}
    (h : operation.coerce parseTemporal type v = .ok w)
    (hset : ∀ negated, operation ≠ .membership negated) : w.FitsRange := by
  intro items heq
  have hadmits := admits_of_coerce h
  cases operation with
  | compare operator => exact absurd heq (Value.OfType.ne_array hadmits items)
  | pattern negated before after => exact absurd heq (Value.OfType.ne_array hadmits items)
  | nullCheck negated => exact absurd heq (Value.OfType.ne_array hadmits items)
  | membership negated => exact absurd rfl (hset negated)
  | keywords => exact absurd heq (hadmits.1.ne_array items)
  | between =>
    obtain ⟨low, high, rfl, _⟩ := hadmits
    cases heq
    rfl

/-! ### Columns -/

theorem Identifier.isInner_of_mem {s : String} (h : isValid s = true) {c : Char}
    (hc : c ∈ s.toList) : isInner c = true := by
  unfold isValid isValidChars at h
  split at h
  · cases h
  · rename_i first rest hchars
    rw [Bool.and_eq_true, Bool.and_eq_true] at h
    rw [hchars] at hc
    rcases List.mem_cons.mp hc with rfl | hrest
    · rw [isInner, h.1.1, Bool.true_or]
    · exact List.all_eq_true.mp h.1.2 c hrest

theorem Identifier.mark_free {s : String} (h : isValid s = true) : '?' ∉ s.toList :=
  fun hmem => absurd (isInner_of_mem h hmem) (by decide)

theorem Identifier.mem_quote {s : String} {c : Char} (hc : c ∈ (quote s).toList) :
    c = '"' ∨ c ∈ s.toList := by
  have hdoubled : ∀ l : List Char, c ∈ doubled '"' l → c = '"' ∨ c ∈ l := by
    intro l
    induction l with
    | nil => exact fun hmem => absurd hmem List.not_mem_nil
    | cons first rest ih =>
      intro hmem
      rw [doubled] at hmem
      split at hmem
      · rcases List.mem_cons.mp hmem with rfl | hmem
        · exact .inl rfl
        · rcases List.mem_cons.mp hmem with rfl | hmem
          · exact .inl rfl
          · exact (ih hmem).imp_right (List.mem_cons_of_mem _)
      · rcases List.mem_cons.mp hmem with rfl | hmem
        · exact .inr List.mem_cons_self
        · exact (ih hmem).imp_right (List.mem_cons_of_mem _)
  rw [quote, String.toList_ofList] at hc
  rcases List.mem_append.mp hc with hc | hc
  · rcases List.mem_cons.mp hc with rfl | hc
    · exact .inl rfl
    · exact hdoubled s.toList hc
  · exact .inl (List.mem_singleton.mp hc)

theorem Identifier.quote_mark_free {s : String} (h : '?' ∉ s.toList) : '?' ∉ (quote s).toList :=
  fun hmem => (mem_quote hmem).elim (by decide) h

theorem Text.composes_mark_free : Composes fun s => '?' ∉ s.toList where
  append hs ht := by simp [hs, ht]
  parenthesized hs := by simp [hs]

namespace ConditionKey

variable {registry : Registry} {source : SchemaSource} {vocabulary : Vocabulary}
  {key : ConditionKey}

/-- The quoted form of a column has no question mark, because the table and the column have valid names. -/
theorem columnRef_mark_free
    (hquote : ∀ s : String, '?' ∉ s.toList → '?' ∉ (source.quote s).toList)
    (h : vocabulary.AssembledFrom registry source) {column : ColumnRef}
    (hcolumn : column ∈ vocabulary.columns) : '?' ∉ column.text.toList :=
  h.text_of Text.composes_mark_free (by decide)
    (fun name hvalid => hquote name (Identifier.mark_free hvalid)) hcolumn

theorem wrappedColumn_mark_free (hregistry : registry.Plain)
    (hkey : key.MadeFrom vocabulary.columns registry) (hcolumn : '?' ∉ key.columnRef.toList) :
    '?' ∉ key.wrappedColumn.toList :=
  wrappedColumn_of Text.composes_mark_free (by decide) (by decide)
    (fun _ hmodifier => hregistry.sql_free hmodifier) hkey hcolumn

/-- What changes of texts keep, the modifiers of a key keep. -/
theorem transform_induction {P : Value → Prop} (hmap : ∀ f v, P v → P (v.mapText f)) {v : Value}
    (h : P v) : P (key.transform v) := by
  unfold transform
  induction key.modifiers generalizing v with
  | nil => exact h
  | cons modifier rest ih =>
    have hstep : P (modifier.transform v) := by
      unfold Modifier.transform
      split
      · exact hmap _ v h
      · exact h
    exact ih hstep

theorem transform_fitsRange {v : Value} (h : v.FitsRange) : (key.transform v).FitsRange :=
  transform_induction (fun f _ h => h.mapText f) h

end ConditionKey

/-! ### Compilation -/

namespace Operation

open Fragment

variable {column : String} {v : Value} {operation : Operation}

theorem balanced_keywordClause (hcolumn : '?' ∉ column.toList) (word : String) :
    (keywordClause column word).Balanced := by
  have hcount : column.toList.count '?' = 0 := List.count_eq_zero.mpr hcolumn
  simp [Fragment.Balanced, placeholders, keywordClause, hcount]

/-- An operation binds a value for every question mark it writes. -/
theorem balanced_compile (hcolumn : '?' ∉ column.toList)
    (hoperator : '?' ∉ operation.operator.toList) (hbounds : operation = .between → v.FitsRange) :
    (operation.compile column v).Balanced := by
  have hcount : column.toList.count '?' = 0 := List.count_eq_zero.mpr hcolumn
  cases operation with
  | compare operator =>
    have hoperator' : operator.toList.count '?' = 0 := List.count_eq_zero.mpr hoperator
    simp [Fragment.Balanced, placeholders, compile, hcount, hoperator']
  | pattern negated before after =>
    cases negated <;> simp [Fragment.Balanced, placeholders, compile, hcount]
  | nullCheck negated =>
    cases h : asksForNull negated v <;> simp [Fragment.Balanced, placeholders, compile, hcount, h]
  | membership negated => cases negated <;> simp [Fragment.Balanced, placeholders, compile, hcount]
  | keywords =>
    refine balanced_conjunction fun clause hclause => ?_
    obtain ⟨word, _, rfl⟩ := List.mem_map.mp hclause
    exact balanced_keywordClause hcolumn word
  | between =>
    have hlength := (hbounds rfl).bounds_length
    simp [Fragment.Balanced, placeholders, compile, hcount, hlength]

end Operation

end SearchFilter
