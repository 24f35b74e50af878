import SearchFilter.Vocabulary
import SearchFilter.Proofs.Outcome
/-!
# What a vocabulary is made of

A vocabulary that was built holds the columns, the relationships and the registry it was built from, and its names are those that were enumerated from them. Every key that a name resolves to, with modifiers or without, is made of parts of the vocabulary: one of its columns together with the quoted form of that column, modifiers and a kind of its registry, and a name that is the kind's name for the modified column. The rest of the theory knows resolved keys through `ConditionKey.MadeFrom` alone.
-/

namespace SearchFilter

/-- The key consists of a column, modifiers and a kind that are at hand. -/
structure ConditionKey.MadeFrom (columns : List ColumnRef) (registry : Registry)
    (key : ConditionKey) : Prop where
  column : ⟨key.column, key.columnRef⟩ ∈ columns
  modifiers : ∀ modifier ∈ key.modifiers, modifier ∈ registry.modifiers
  kind : key.kind ∈ registry.kinds
  applies : key.kind.appliesTo key.valueType = true
  name : key.name = key.kind.canonicalName (modifiedName key.column.name key.modifiers)

/-- What the quoted column has and every modifier keeps, the column with all modifiers around it has. -/
theorem ConditionKey.MadeFrom.wrappedColumn_induction {columns : List ColumnRef}
    {registry : Registry} {key : ConditionKey} (h : key.MadeFrom columns registry)
    {P : String → Prop}
    (hwrap : ∀ modifier ∈ registry.modifiers, ∀ column, P column → P (modifier.wrap column))
    (hcolumn : P key.columnRef) : P key.wrappedColumn := by
  have hfold : ∀ (modifiers : List Modifier) (column : String),
      (∀ modifier ∈ modifiers, modifier ∈ registry.modifiers) → P column →
      P (modifiers.foldl (fun column modifier => modifier.wrap column) column) := by
    intro modifiers
    induction modifiers with
    | nil => exact fun _ _ hcolumn => hcolumn
    | cons modifier rest ih =>
      intro column hmodifiers hcolumn
      refine ih _ (fun other hother => hmodifiers other (List.mem_cons_of_mem _ hother)) ?_
      exact hwrap modifier (hmodifiers modifier List.mem_cons_self) column hcolumn
  exact hfold key.modifiers key.columnRef h.modifiers hcolumn

namespace Vocabulary

variable {registry : Registry} {source : SchemaSource} {vocabulary : Vocabulary}

/-! ### What building yields -/

/-- The vocabulary was put together from these parts. Its policy may be any. -/
structure Assembled (registry : Registry) (quote : String → String) (table : String)
    (columns : List Column) (relationships : List Relationship) (vocabulary : Vocabulary) :
    Prop where
  valid : invalidName? table columns relationships = none
  columns_eq : vocabulary.columns = columnRefs quote table columns
  relationships_eq : vocabulary.relationships = relationships
  keys_eq : vocabulary.keys = vocabulary.columns.flatMap (keysOf registry.kinds)
  names_eq : vocabulary.keys.foldlM (addNames vocabulary.entity) [] = .ok vocabulary.names
  noClash : ∀ relationship ∈ relationships, vocabulary.names.lookup relationship.name = none
  noOverlap : overlap? registry vocabulary.columns vocabulary.names = none
  registry_eq : vocabulary.registry = registry

/-- The vocabulary was put together from what the schema says of its entity. -/
def AssembledFrom (registry : Registry) (source : SchemaSource) (vocabulary : Vocabulary) : Prop :=
  ∃ table columns, source.tableName vocabulary.entity = some table ∧
    source.columns vocabulary.entity = some columns ∧
    vocabulary.Assembled registry source.quote table columns
      ((source.relationships vocabulary.entity).getD [])

theorem assembled_of_ofParts {quote : String → String} {entity table : String}
    {columns : List Column} {relationships : List Relationship}
    (h : ofParts registry quote entity table columns relationships = .ok vocabulary) :
    (vocabulary.entity = entity ∧ vocabulary.policy = {}) ∧
      vocabulary.Assembled registry quote table columns relationships := by
  unfold ofParts at h
  split at h
  · cases h
  · rename_i hvalid
    obtain ⟨names, hnames, h⟩ := Outcome.bind_eq_ok_iff.mp h
    split at h
    · cases h
    · rename_i hclash
      split at h
      · cases h
      · rename_i hoverlap
        cases h
        refine ⟨⟨rfl, rfl⟩, hvalid, rfl, rfl, rfl, hnames, fun relationship hmem => ?_, hoverlap,
          rfl⟩
        have hnone := List.find?_eq_none.mp hclash relationship hmem
        simpa only [Option.not_isSome_iff_eq_none] using hnone

theorem assembledFrom_of_build {entity : String}
    (h : build registry source entity = .ok vocabulary) :
    vocabulary.entity = entity ∧ vocabulary.AssembledFrom registry source := by
  unfold build at h
  split at h
  · rename_i table columns htable hcolumns
    obtain ⟨⟨rfl, _⟩, hassembled⟩ := assembled_of_ofParts h
    exact ⟨rfl, table, columns, htable, hcolumns, hassembled⟩
  · cases h

theorem policy_of_build {entity : String} (h : build registry source entity = .ok vocabulary) :
    vocabulary.policy = {} := by
  unfold build at h
  split at h
  · exact (assembled_of_ofParts h).1.2
  · cases h

theorem AssembledFrom.withPolicy (h : vocabulary.AssembledFrom registry source) (policy : Policy) :
    AssembledFrom registry source { vocabulary with policy } := by
  obtain ⟨table, columns, htable, hcolumns, hassembled⟩ := h
  exact ⟨table, columns, htable, hcolumns, { hassembled with }⟩

theorem AssembledFrom.registry_eq (h : vocabulary.AssembledFrom registry source) :
    vocabulary.registry = registry := by
  obtain ⟨_, _, _, _, hassembled⟩ := h
  exact hassembled.registry_eq

/-! ### Enumerated keys -/

theorem madeFrom_of_mem_keysOf {kinds : List Kind} {column : ColumnRef} {key : ConditionKey}
    (h : key ∈ keysOf kinds column) {columns : List ColumnRef} (hcolumn : column ∈ columns)
    (modifiers : List Modifier) :
    key.MadeFrom columns ⟨kinds, modifiers⟩ := by
  obtain ⟨kind, hkind, rfl⟩ := List.mem_map.mp h
  obtain ⟨hmem, happlies⟩ := List.mem_filter.mp hkind
  exact ⟨hcolumn, fun _ hmodifier => absurd hmodifier List.not_mem_nil, hmem, happlies, rfl⟩

theorem addNames_mem {entity : String} {names names' : List (String × ConditionKey)}
    {key : ConditionKey} (h : addNames entity names key = .ok names')
    {pair : String × ConditionKey} (hpair : pair ∈ names') :
    pair ∈ names ∨ pair.2 = key := by
  unfold addNames at h
  split at h
  · cases h
  · cases h
    rcases List.mem_append.mp hpair with hold | hnew
    · exact .inl hold
    · obtain ⟨name, _, rfl⟩ := List.mem_map.mp hnew
      exact .inr rfl

theorem Assembled.key_of_name {quote : String → String} {table : String} {columns : List Column}
    {relationships : List Relationship}
    (h : vocabulary.Assembled registry quote table columns relationships)
    {pair : String × ConditionKey} (hpair : pair ∈ vocabulary.names) :
    pair.2 ∈ vocabulary.keys := by
  refine Outcome.foldlM_invariant
    (fun rest names => (∀ key ∈ rest, key ∈ vocabulary.keys) ∧
      ∀ pair ∈ names, pair.2 ∈ vocabulary.keys)
    (fun key rest names names' hnames hadd => ?_)
    ⟨fun _ hkey => hkey, by simp⟩ h.names_eq |>.2 pair hpair
  refine ⟨fun other hother => hnames.1 other (List.mem_cons_of_mem _ hother), fun pair hmem => ?_⟩
  rcases addNames_mem hadd hmem with hold | rfl
  · exact hnames.2 pair hold
  · exact hnames.1 _ List.mem_cons_self

/-! ### Names with modifiers -/

theorem mem_of_modifierFor? {modifiers : List Modifier} {type : SemanticType} {token : String}
    {modifier : Modifier} (h : modifierFor? modifiers type token = some modifier) :
    modifier ∈ modifiers :=
  List.mem_of_find?_eq_some (Option.filter_eq_some_iff.mp h).1

theorem mem_of_chainFrom? {modifiers : List Modifier} {type result : SemanticType}
    {pending : String} {segments : List String} {chain : List Modifier}
    (h : chainFrom? modifiers type pending segments = some (chain, result)) :
    ∀ modifier ∈ chain, modifier ∈ modifiers := by
  induction segments generalizing type pending chain with
  | nil =>
    obtain ⟨modifier, hmodifier, heq⟩ := Option.map_eq_some_iff.mp h
    cases heq
    intro other hother
    rw [List.mem_singleton.mp hother]
    exact mem_of_modifierFor? hmodifier
  | cons segment rest ih =>
    rw [chainFrom?] at h
    split at h
    · rename_i longer hlonger
      cases h
      exact ih hlonger
    · split at h
      · cases h
      · rename_i modifier hmodifier
        obtain ⟨⟨tail, type'⟩, htail, heq⟩ := Option.map_eq_some_iff.mp h
        cases heq
        intro other hother
        rcases List.mem_cons.mp hother with rfl | hother
        · exact mem_of_modifierFor? hmodifier
        · exact ih htail other hother

theorem mem_of_chain? {modifiers : List Modifier} {type result : SemanticType}
    {segments : List String} {chain : List Modifier}
    (h : chain? modifiers type segments = some (chain, result)) :
    ∀ modifier ∈ chain, modifier ∈ modifiers := by
  cases segments with
  | nil =>
    cases h
    exact fun _ hmodifier => absurd hmodifier List.not_mem_nil
  | cons segment rest => exact mem_of_chainFrom? h

theorem madeFrom_of_readDivision? {column : ColumnRef} {chain suffix : List String}
    {key : ConditionKey} (h : readDivision? registry column chain suffix = some key)
    {columns : List ColumnRef} (hcolumn : column ∈ columns) :
    key.MadeFrom columns registry := by
  unfold readDivision? at h
  split at h
  · cases h
  · rename_i modifiers type hchain
    obtain ⟨kind, hkind, rfl⟩ := Option.map_eq_some_iff.mp h
    have hsuffix := List.find?_some hkind
    rw [Bool.and_eq_true] at hsuffix
    exact ⟨hcolumn, mem_of_chain? hchain, List.mem_of_find?_eq_some hkind, hsuffix.2, rfl⟩

theorem madeFrom_of_resolveModified? {columns : List ColumnRef} {name : String} {key : ConditionKey}
    (h : resolveModified? registry columns name = some key) : key.MadeFrom columns registry := by
  obtain ⟨column, hcolumn, h⟩ := List.exists_of_findSome?_eq_some h
  unfold readModified? at h
  split at h
  · cases h
  · obtain ⟨⟨chain, suffix⟩, _, h⟩ := List.exists_of_findSome?_eq_some h
    exact madeFrom_of_readDivision? h hcolumn

/-! ### Resolution -/

theorem mem_of_lookup {β : Type} {name : String} {b : β} {pairs : List (String × β)}
    (h : pairs.lookup name = some b) : (name, b) ∈ pairs := by
  obtain ⟨before, after, rfl, _⟩ := List.lookup_eq_some_iff.mp h
  exact List.mem_append_right _ List.mem_cons_self

/-- Every key that a name resolves to is made of parts of the vocabulary. -/
theorem AssembledFrom.madeFrom (h : vocabulary.AssembledFrom registry source) {name : String}
    {key : ConditionKey} (hkey : vocabulary.resolve? name = some key) :
    key.MadeFrom vocabulary.columns registry := by
  obtain ⟨table, columns, _, _, hassembled⟩ := h
  unfold resolve? at hkey
  split at hkey
  · rename_i enumerated hlookup
    cases hkey
    have hmem := hassembled.key_of_name (mem_of_lookup hlookup)
    rw [hassembled.keys_eq] at hmem
    obtain ⟨column, hcolumn, hmem⟩ := List.mem_flatMap.mp hmem
    exact madeFrom_of_mem_keysOf hmem hcolumn registry.modifiers
  · rw [hassembled.registry_eq] at hkey
    exact madeFrom_of_resolveModified? hkey

theorem AssembledFrom.exists_text_eq (h : vocabulary.AssembledFrom registry source)
    {column : ColumnRef} (hcolumn : column ∈ vocabulary.columns) :
    ∃ table name, Identifier.isValid table = true ∧ Identifier.isValid name = true ∧
      column.text = source.quote table ++ "." ++ source.quote name := by
  obtain ⟨table, columns, _, _, hassembled⟩ := h
  rw [hassembled.columns_eq] at hcolumn
  obtain ⟨plain, hplain, rfl⟩ := List.mem_map.mp hcolumn
  have hvalid := List.find?_eq_none.mp hassembled.valid
  have hmem : plain.name ∈ columns.map (·.name) := List.mem_map_of_mem hplain
  exact ⟨table, plain.name, by simpa using hvalid table (by simp),
    by simpa using hvalid plain.name (by simp [hmem]), rfl⟩

theorem AssembledFrom.columnRef_eq (h : vocabulary.AssembledFrom registry source)
    {column : Column} {text text' : String} (hmem : ⟨column, text⟩ ∈ vocabulary.columns)
    (hmem' : ⟨column, text'⟩ ∈ vocabulary.columns) : text = text' := by
  obtain ⟨table, columns, _, _, hassembled⟩ := h
  rw [hassembled.columns_eq] at hmem hmem'
  obtain ⟨_, _, heq⟩ := List.mem_map.mp hmem
  obtain ⟨_, _, heq'⟩ := List.mem_map.mp hmem'
  cases heq
  cases heq'
  rfl

theorem relationship?_mem {name : String} {relationship : Relationship}
    (h : vocabulary.relationship? name = some relationship) :
    relationship ∈ vocabulary.relationships :=
  List.mem_of_find?_eq_some h

end Vocabulary

end SearchFilter
