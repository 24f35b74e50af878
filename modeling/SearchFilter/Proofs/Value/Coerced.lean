import Mathlib.Data.List.Basic
import SearchFilter.Kind.Operation
import SearchFilter.Kind.Standard
import SearchFilter.Proofs.Outcome
import SearchFilter.Time.Reading
/-!
# What coercion yields

A coerced value is of one of a few forms. `Value.OfType` says which values a type has, and `Operation.Admits` which values an operation stores for a type. Coercion yields nothing else and leaves what is of this form alone, so coercing a coerced value changes nothing.
-/

namespace SearchFilter

variable {parseTemporal : String → Option Timestamp} {type : SemanticType} {v w : Value}

namespace Value

/-! ### Scalars -/

inductive OfType : SemanticType → Value → Prop
  | text (s : String) : OfType .text (.string s)
  | integer (i : Int64) : OfType .integer (.integer i)
  | float (x : Binary64) : OfType .float (.float x)
  | boolean (b : Bool) : OfType .boolean (.bool b)
  | temporal (t : Timestamp) : OfType .temporal (.timestamp t)
  | binary (s : String) : OfType .binary (.string s)

theorem OfType.ne_array (h : OfType type v) (items : List Value) : v ≠ array items := by
  cases h <;> exact nofun

theorem OfType.isNull_eq_false (h : OfType type v) : v.isNull = false := by
  cases h <;> rfl

theorem OfType.coerceScalar_eq (h : OfType type v) : coerceScalar parseTemporal type v = .ok v := by
  cases h <;> rfl

theorem ofType_of_coerceScalar (h : coerceScalar parseTemporal type v = .ok w) : OfType type w := by
  cases type with
  | text =>
    rw [coerceScalar] at h
    unfold toText mismatch at h
    repeat' split at h
    all_goals cases h
    all_goals exact .text _
  | integer =>
    rw [coerceScalar] at h
    unfold toInteger mismatch at h
    repeat' split at h
    all_goals cases h
    all_goals exact .integer _
  | float =>
    rw [coerceScalar] at h
    unfold toFloat mismatch at h
    repeat' split at h
    all_goals cases h
    all_goals exact .float _
  | boolean =>
    rw [coerceScalar] at h
    unfold toBoolean mismatch at h
    repeat' split at h
    all_goals cases h
    all_goals exact .boolean _
  | temporal =>
    rw [coerceScalar] at h
    unfold toTemporal mismatch at h
    repeat' split at h
    all_goals cases h
    all_goals exact .temporal _
  | binary =>
    rw [coerceScalar] at h
    unfold toBinary mismatch at h
    repeat' split at h
    all_goals cases h
    all_goals exact .binary _

/-! ### Flags and sets -/

theorem ofType_of_coerceFlag (h : coerceFlag v = .ok w) : OfType .boolean w := by
  cases v with
  | string s =>
    rw [coerceFlag] at h
    cases hflag : flagOfText? s with
    | none =>
      rw [hflag] at h
      cases h
    | some b =>
      rw [hflag] at h
      cases h
      exact .boolean b
  | integer i =>
    rw [coerceFlag] at h
    repeat' split at h
    all_goals cases h
    all_goals exact .boolean _
  | bool b =>
    cases h
    exact .boolean b
  | null | float _ | timestamp _ | array _ => cases h

theorem OfType.coerceFlag_eq (h : OfType .boolean v) : coerceFlag v = .ok v := by
  cases h
  rfl

theorem ofType_of_coerceItem (h : coerceItem parseTemporal type v = .ok w) : OfType type w := by
  cases v with
  | array items => cases h
  | null | bool _ | integer _ | float _ | string _ | timestamp _ => exact ofType_of_coerceScalar h

theorem OfType.coerceItem_eq (h : OfType type v) : coerceItem parseTemporal type v = .ok v := by
  cases h <;> rfl

theorem ofType_of_coerceItems {items items' : List Value}
    (h : coerceItems parseTemporal type items = .ok items') :
    items'.length = items.length ∧ ∀ item ∈ items', OfType type item := by
  induction items generalizing items' with
  | nil =>
    cases h
    exact ⟨rfl, fun _ hmem => absurd hmem List.not_mem_nil⟩
  | cons item rest ih =>
    obtain ⟨first, hfirst, h⟩ := Outcome.bind_eq_ok_iff.mp h
    obtain ⟨rest', hrest, h⟩ := Outcome.bind_eq_ok_iff.mp h
    cases h
    obtain ⟨hlength, htypes⟩ := ih hrest
    refine ⟨by rw [List.length_cons, List.length_cons, hlength], ?_⟩
    rw [List.forall_mem_cons]
    exact ⟨ofType_of_coerceItem hfirst, htypes⟩

theorem coerceItems_eq {items : List Value} (h : ∀ item ∈ items, OfType type item) :
    coerceItems parseTemporal type items = .ok items := by
  induction items with
  | nil => rfl
  | cons item rest ih =>
    rw [List.forall_mem_cons] at h
    rw [coerceItems, h.1.coerceItem_eq, Outcome.ok_bind, ih h.2]
    rfl

theorem coerceSet_array {items : List Value} :
    (array items).coerceSet parseTemporal type =
      (coerceItems parseTemporal type items).map array := rfl

end Value

/-! ### Operations -/

namespace Operation

open Value

variable {operation : Operation}

def Admits (type : SemanticType) (v : Value) : Operation → Prop
  | compare _ | pattern .. => OfType type v
  | nullCheck _ => OfType .boolean v
  | membership _ => ∃ items, v = array items ∧ ∀ item ∈ items, OfType type item
  | keywords => OfType type v ∧ Keywords.tokens v.searchText ≠ []
  | between => ∃ low high, v = array [low, high] ∧ OfType type low ∧ OfType type high

theorem coerce_cases (h : operation.coerce parseTemporal type v = .ok w) :
    v.coerceScalar parseTemporal type = .ok w ∨ v.coerceFlag = .ok w ∨
      v.coerceSet parseTemporal type = .ok w := by
  cases operation with
  | compare operator => exact .inl h
  | pattern negated before after => exact .inl h
  | nullCheck negated => exact .inr (.inl h)
  | membership negated => exact .inr (.inr h)
  | keywords =>
    rw [coerce] at h
    split at h
    · cases h
    · rename_i u hscalar
      split at h
      · cases h
      · cases h
        exact .inl hscalar
  | between =>
    cases v with
    | array bounds =>
      rcases bounds with _ | ⟨low, _ | ⟨high, _ | ⟨third, rest⟩⟩⟩
      · cases h
      · cases h
      · exact .inr (.inr h)
      · cases h
    | null | bool _ | integer _ | float _ | string _ | timestamp _ => cases h

theorem admits_of_coerce (h : operation.coerce parseTemporal type v = .ok w) :
    operation.Admits type w := by
  cases operation with
  | compare operator => exact ofType_of_coerceScalar h
  | pattern negated before after => exact ofType_of_coerceScalar h
  | nullCheck negated => exact ofType_of_coerceFlag h
  | membership negated =>
    obtain ⟨items, hitems, rfl⟩ := Outcome.map_eq_ok_iff.mp h
    exact ⟨items, rfl, (ofType_of_coerceItems hitems).2⟩
  | keywords =>
    rw [coerce] at h
    split at h
    · cases h
    · rename_i u hscalar
      split at h
      · cases h
      · rename_i hsome
        cases h
        exact ⟨ofType_of_coerceScalar hscalar, fun hnil => hsome (List.isEmpty_iff.mpr hnil)⟩
  | between =>
    cases v with
    | array bounds =>
      rcases bounds with _ | ⟨low, _ | ⟨high, _ | ⟨third, rest⟩⟩⟩
      · cases h
      · cases h
      · obtain ⟨items, hitems, rfl⟩ := Outcome.map_eq_ok_iff.mp h
        obtain ⟨hlength, htypes⟩ := ofType_of_coerceItems hitems
        obtain ⟨low', high', rfl⟩ := List.length_eq_two.mp hlength
        exact ⟨low', high', rfl, htypes low' (by simp), htypes high' (by simp)⟩
      · cases h
    | null | bool _ | integer _ | float _ | string _ | timestamp _ => cases h

theorem Admits.coerce_eq (h : operation.Admits type v) :
    operation.coerce parseTemporal type v = .ok v := by
  cases operation with
  | compare operator => exact OfType.coerceScalar_eq h
  | pattern negated before after => exact OfType.coerceScalar_eq h
  | nullCheck negated => exact OfType.coerceFlag_eq h
  | membership negated =>
    obtain ⟨items, rfl, htypes⟩ := h
    rw [coerce, coerceSet_array, coerceItems_eq htypes, Outcome.map_ok]
  | keywords =>
    obtain ⟨htype, hwords⟩ := h
    have hsome : ¬ (Keywords.tokens v.searchText).isEmpty = true :=
      fun hempty => hwords (List.isEmpty_iff.mp hempty)
    rw [coerce, htype.coerceScalar_eq]
    exact if_neg hsome
  | between =>
    obtain ⟨low, high, rfl, hlow, hhigh⟩ := h
    have htypes : ∀ item ∈ [low, high], OfType type item := by
      simp [hlow, hhigh]
    rw [coerce, coerceSet_array, coerceItems_eq htypes, Outcome.map_ok]

theorem Admits.isNull_eq_false (h : operation.Admits type v) : v.isNull = false := by
  cases operation with
  | compare operator => exact OfType.isNull_eq_false h
  | pattern negated before after => exact OfType.isNull_eq_false h
  | nullCheck negated => exact OfType.isNull_eq_false h
  | membership negated =>
    obtain ⟨items, rfl, _⟩ := h
    rfl
  | keywords => exact h.1.isNull_eq_false
  | between =>
    obtain ⟨low, high, rfl, _⟩ := h
    rfl

end Operation

/-! ### Coercing again -/

/-- A value that was coerced, by a kind of condition or as a scalar, is coerced to itself. It is no text where a point in time is asked for, so the second time texts may be read by another rule. The values that are left alone are the ones that can be stored. -/
theorem Kind.coerce_coerce (parseTemporal parseTemporal' : String → Option Timestamp)
    (type : SemanticType) (v w : Value) :
    (∀ kind : Kind, kind.coerce parseTemporal type v = .ok w →
      kind.coerce parseTemporal' type w = .ok w) ∧
    (v.coerceScalar parseTemporal type = .ok w → w.coerceScalar parseTemporal' type = .ok w) ∧
    (∀ kind : Kind, kind.coerce parseTemporal' type w = .ok w ↔ kind.operation.Admits type w) ∧
    (w.coerceScalar parseTemporal' type = .ok w ↔ Value.OfType type w) := by
  refine ⟨fun kind h => ?_, fun h => ?_, fun kind => ⟨fun h => ?_, fun h => ?_⟩,
    fun h => ?_, fun h => ?_⟩
  · exact (Operation.admits_of_coerce h).coerce_eq
  · exact (Value.ofType_of_coerceScalar h).coerceScalar_eq
  · exact Operation.admits_of_coerce h
  · exact h.coerce_eq
  · exact Value.ofType_of_coerceScalar h
  · exact h.coerceScalar_eq

/-- A day and a number of seconds become a set of two points in time, which a rule that reads no text leaves alone. The day by itself is treated likewise. -/
theorem Kind.coerce_coerce_day : ∃ set day,
    Kind.isIn.coerce Timestamp.ofText? .temporal (.array [.string "2024-02-29", .integer 0]) =
      .ok set ∧
    Kind.isIn.coerce (fun _ => none) .temporal set = .ok set ∧
    (Value.string "2024-02-29").coerceScalar Timestamp.ofText? .temporal = .ok day ∧
    day.coerceScalar (fun _ => none) .temporal = .ok day := by
  obtain ⟨set, hset⟩ := Outcome.exists_of_isOk (x := Kind.isIn.coerce Timestamp.ofText? .temporal
    (.array [.string "2024-02-29", .integer 0])) (by decide +kernel)
  obtain ⟨day, hday⟩ := Outcome.exists_of_isOk (x := (Value.string "2024-02-29").coerceScalar
    Timestamp.ofText? .temporal) (by decide +kernel)
  exact ⟨set, day, hset, (Kind.coerce_coerce _ _ _ _ _).1 Kind.isIn hset, hday,
    (Kind.coerce_coerce _ _ _ _ _).2.1 hday⟩

end SearchFilter
