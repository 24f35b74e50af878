import SearchFilter.Proofs.ConditionKey.Balance
import SearchFilter.Proofs.Keywords.Tokens
/-!
# What conditions bind

The values that a condition binds are the stored value after the modifiers, or texts that are made of it. Modifiers change texts only, so a value of a type stays one, and the items of sets and ranges do. `Operation.Binds` says for each operation what is bound for a value that it stores.

Patterns and searches for keywords read the value as a text and take the empty text where it is none. The standard kinds that do so apply to texts alone, and there the value is a text.
-/

namespace SearchFilter

/-! ### Types of changed values -/

namespace Value

variable {type : SemanticType} {v : Value}

theorem OfType.exists_string (h : OfType .text v) : ∃ s, v = .string s := by
  cases h with
  | text s => exact ⟨s, rfl⟩

theorem OfType.mapText (h : OfType type v) (f : String → String) : OfType type (v.mapText f) := by
  cases h with
  | text s => exact .text (f s)
  | integer i => exact .integer i
  | float x => exact .float x
  | boolean b => exact .boolean b
  | temporal t => exact .temporal t
  | binary s => exact .binary (f s)

theorem ofType_of_mem_mapTextItems {f : String → String} {items : List Value}
    (h : ∀ item ∈ items, OfType type item) :
    ∀ item ∈ mapTextItems f items, OfType type item := by
  rw [mapTextItems_eq_map, List.forall_mem_map]
  exact fun item hmem => (h item hmem).mapText f

def isScalar : Value → Bool
  | null | array _ => false
  | bool _ | integer _ | float _ | string _ | timestamp _ => true

inductive IsFlat : Value → Prop
  | scalar {v : Value} (h : v.isScalar = true) : IsFlat v
  | list {items : List Value} (h : ∀ item ∈ items, item.isScalar = true) : IsFlat (array items)

theorem OfType.isScalar_eq_true (h : OfType type v) : v.isScalar = true := by
  cases h <;> rfl

end Value

/-! ### Operations -/

namespace Operation

open Value

variable {operation : Operation} {type : SemanticType} {v w : Value} {binds : List Value}

def readsText : Operation → Bool
  | pattern .. | keywords => true
  | compare _ | nullCheck _ | membership _ | between => false

/-- The operation binds these values for a type, where the stored value is `v` and the modifiers make it `w`. -/
def Binds (type : SemanticType) (v w : Value) (binds : List Value) : Operation → Prop
  | compare _ => OfType type w ∧ binds = [w]
  | pattern _ before after =>
    type = .text ∧ ∃ s t, v = .string s ∧ w = .string t ∧ binds = [.string (before ++ t ++ after)]
  | nullCheck _ => binds = []
  | membership _ => ∃ items, binds = [.array items] ∧ ∀ item ∈ items, OfType type item
  | keywords =>
    type = .text ∧ ∃ s t, v = .string s ∧ w = .string t ∧
      binds = (Keywords.tokens t).map fun word => .string ("%" ++ word ++ "%")
  | between => ∃ low high, binds = [low, high] ∧ OfType type low ∧ OfType type high

theorem Binds.isFlat (h : operation.Binds type v w binds) {bind : Value} (hbind : bind ∈ binds) :
    bind.IsFlat := by
  cases operation with
  | compare operator =>
    obtain ⟨htype, rfl⟩ := h
    rw [List.mem_singleton.mp hbind]
    exact .scalar htype.isScalar_eq_true
  | pattern negated before after =>
    obtain ⟨_, _, _, _, _, rfl⟩ := h
    rw [List.mem_singleton.mp hbind]
    exact .scalar rfl
  | nullCheck negated =>
    rw [Binds] at h
    rw [h] at hbind
    exact absurd hbind List.not_mem_nil
  | membership negated =>
    obtain ⟨items, rfl, htypes⟩ := h
    rw [List.mem_singleton.mp hbind]
    exact .list fun item hmem => (htypes item hmem).isScalar_eq_true
  | keywords =>
    obtain ⟨_, _, _, _, _, rfl⟩ := h
    obtain ⟨word, _, rfl⟩ := List.mem_map.mp hbind
    exact .scalar rfl
  | between =>
    obtain ⟨low, high, rfl, hlow, hhigh⟩ := h
    rcases List.mem_pair.mp hbind with rfl | rfl
    · exact .scalar hlow.isScalar_eq_true
    · exact .scalar hhigh.isScalar_eq_true

end Operation

/-! ### Conditions -/

namespace Kind

theorem types_of_readsText : ∀ kind ∈ standard, kind.operation.readsText = true →
    kind.types = [.text] := by
  decide

end Kind

namespace ConditionKey

open Value

variable {columns : List ColumnRef} {type : SemanticType} {key : ConditionKey} {v : Value}

theorem MadeFrom.valueType_of_readsText (h : key.MadeFrom columns Registry.standard)
    (hreads : key.kind.operation.readsText = true) : key.valueType = .text := by
  have happlies := h.applies
  rw [Kind.appliesTo, Kind.types_of_readsText key.kind h.kind hreads,
    List.contains_iff_mem] at happlies
  exact List.mem_singleton.mp happlies

theorem transform_ofType (h : OfType type v) : OfType type (key.transform v) :=
  transform_induction (fun f _ h => h.mapText f) h

theorem transform_list (key : ConditionKey) {items : List Value} (h : ∀ item ∈ items, OfType type item) :
    ∃ items', key.transform (.array items) = .array items' ∧ items'.length = items.length ∧
      ∀ item ∈ items', OfType type item := by
  refine transform_induction (P := fun v => ∃ items', v = .array items' ∧
    items'.length = items.length ∧ ∀ item ∈ items', OfType type item) ?_ ⟨items, rfl, rfl, h⟩
  rintro f _ ⟨items', rfl, hlength, htypes⟩
  refine ⟨mapTextItems f items', by rw [mapText], ?_, ofType_of_mem_mapTextItems htypes⟩
  rw [mapTextItems_eq_map, List.length_map, hlength]

/-- The condition binds values of its type. -/
def BindsTyped (key : ConditionKey) (v : Value) : Prop :=
  key.kind.operation.Binds key.valueType v (key.transform v) (key.compile v).binds

/-- A text stays a text, so what patterns and searches read is never missing. -/
theorem exists_text (key : ConditionKey) (htext : type = .text) (h : OfType type v) :
    ∃ s t, v = .string s ∧ key.transform v = .string t := by
  subst htext
  have hchanged : OfType .text (key.transform v) := transform_ofType h
  obtain ⟨s, hs⟩ := h.exists_string
  obtain ⟨t, ht⟩ := hchanged.exists_string
  exact ⟨s, t, hs, ht⟩

theorem binds_compile {operation : Operation} (column : String) (h : operation.Admits type v)
    (htext : operation.readsText = true → type = .text) :
    operation.Binds type v (key.transform v) (operation.compile column (key.transform v)).binds := by
  cases operation with
  | compare operator => exact ⟨transform_ofType h, rfl⟩
  | pattern negated before after =>
    obtain ⟨s, t, hs, ht⟩ := exists_text key (htext rfl) h
    refine ⟨htext rfl, s, t, hs, ht, ?_⟩
    rw [ht]
    rfl
  | nullCheck negated => rfl
  | membership negated =>
    obtain ⟨items, rfl, htypes⟩ := h
    obtain ⟨items', heq, _, htypes'⟩ := transform_list key htypes
    refine ⟨items', ?_, htypes'⟩
    rw [heq]
    rfl
  | keywords =>
    obtain ⟨s, t, hs, ht⟩ := exists_text key (htext rfl) h.1
    refine ⟨htext rfl, s, t, hs, ht, ?_⟩
    rw [ht, Operation.keywords_binds, searchText]
  | between =>
    obtain ⟨low, high, rfl, hlow, hhigh⟩ := h
    have htypes : ∀ item ∈ [low, high], OfType type item := by simp [hlow, hhigh]
    obtain ⟨items', heq, hlength, htypes'⟩ := transform_list key htypes
    obtain ⟨low', high', rfl⟩ := List.length_eq_two.mp hlength
    refine ⟨low', high', ?_, htypes' low' (by simp), htypes' high' (by simp)⟩
    rw [heq]
    rfl

end ConditionKey

end SearchFilter
