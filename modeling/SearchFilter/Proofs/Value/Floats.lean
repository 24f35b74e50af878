import SearchFilter.Proofs.ConditionKey.Binds
import SearchFilter.Proofs.Numeric.Rounding
import SearchFilter.Proofs.Value.Coerced
/-!
# Finite numbers in values

Coercion makes no infinite numbers. Whole numbers of 64 bits are finite as floating point numbers, numbers out of range are refused where texts are read, and numbers that are given stay what they are. Modifiers change texts alone, and what a condition binds is a text or part of what is stored. So the numbers that are bound are finite if those that were given are.
-/

namespace SearchFilter

namespace Value

variable {parseTemporal : String → Option Timestamp} {type : SemanticType} {v w : Value}
  {items : List Value} {x : Binary64}

/-- The value is the number or a list in which it stands somewhere. -/
inductive HasFloat (x : Binary64) : Value → Prop
  | self : HasFloat x (.float x)
  | item {item : Value} {items : List Value} (hmem : item ∈ items) (h : HasFloat x item) :
      HasFloat x (.array items)

def FloatsFinite (v : Value) : Prop := ∀ x, HasFloat x v → x.isFinite = true

theorem floatsFinite_float_iff : FloatsFinite (.float x) ↔ x.isFinite = true := by
  refine ⟨fun h => h x .self, fun h y hy => ?_⟩
  cases hy
  exact h

theorem floatsFinite_array_iff :
    FloatsFinite (.array items) ↔ ∀ item ∈ items, FloatsFinite item := by
  refine ⟨fun h item hmem x hx => h x (.item hmem hx), fun h x hx => ?_⟩
  cases hx with
  | item hmem hx => exact h _ hmem x hx

theorem floatsFinite_string (s : String) : FloatsFinite (.string s) := nofun

/-! ### Coercion -/

theorem isFinite_of_finiteNumber? {s : String} (h : finiteNumber? s = some x) : x.isFinite = true := by
  unfold finiteNumber? at h
  split at h
  · split at h
    · rename_i hfinite
      cases h
      exact hfinite
    · cases h
  · cases h

theorem isFinite_of_toFloat (hv : FloatsFinite v) (h : toFloat v = .ok (.float x)) :
    x.isFinite = true := by
  cases v with
  | float y =>
    cases h
    exact hv x .self
  | integer i =>
    cases h
    exact Binary64.isFinite_ofInt i
  | string s =>
    rw [toFloat] at h
    split at h
    · rename_i hread
      cases h
      exact isFinite_of_finiteNumber? hread
    · cases h
  | null | bool _ | timestamp _ | array _ => cases h

theorem FloatsFinite.coerceScalar (hv : FloatsFinite v)
    (h : coerceScalar parseTemporal type v = .ok w) : FloatsFinite w := by
  cases ofType_of_coerceScalar h with
  | float x => exact floatsFinite_float_iff.mpr (isFinite_of_toFloat hv h)
  | text | integer | boolean | temporal | binary => exact nofun

theorem FloatsFinite.coerceItem (hv : FloatsFinite v)
    (h : coerceItem parseTemporal type v = .ok w) : FloatsFinite w := by
  cases v with
  | array _ => cases h
  | null | bool _ | integer _ | float _ | string _ | timestamp _ => exact hv.coerceScalar h

theorem floatsFinite_of_coerceItems {items' : List Value} (hitems : ∀ item ∈ items, FloatsFinite item)
    (h : coerceItems parseTemporal type items = .ok items') : ∀ item ∈ items', FloatsFinite item := by
  induction items generalizing items' with
  | nil =>
    cases h
    exact hitems
  | cons item rest ih =>
    obtain ⟨first, hfirst, h⟩ := Outcome.bind_eq_ok_iff.mp h
    obtain ⟨rest', hrest, h⟩ := Outcome.bind_eq_ok_iff.mp h
    cases h
    rw [List.forall_mem_cons] at hitems ⊢
    exact ⟨hitems.1.coerceItem hfirst, ih hitems.2 hrest⟩

theorem FloatsFinite.coerceSet (hv : FloatsFinite v)
    (h : v.coerceSet parseTemporal type = .ok w) : FloatsFinite w := by
  obtain ⟨items, hitems, rfl⟩ := Outcome.map_eq_ok_iff.mp h
  refine floatsFinite_array_iff.mpr (floatsFinite_of_coerceItems ?_ hitems)
  cases v with
  | array items => exact floatsFinite_array_iff.mp hv
  | null | bool _ | integer _ | float _ | string _ | timestamp _ =>
    exact List.forall_mem_singleton.mpr hv

theorem FloatsFinite.coerce {operation : Operation} (hv : FloatsFinite v)
    (h : operation.coerce parseTemporal type v = .ok w) : FloatsFinite w := by
  rcases Operation.coerce_cases h with hscalar | hflag | hset
  · exact hv.coerceScalar hscalar
  · cases ofType_of_coerceFlag hflag
    exact nofun
  · exact hv.coerceSet hset

/-! ### Compilation -/

theorem HasFloat.of_mapText {f : String → String} (h : HasFloat x w) (hw : v.mapText f = w) :
    HasFloat x v := by
  induction h generalizing v with
  | self =>
    cases v with
    | float y =>
      cases hw
      exact .self
    | array items => cases hw
    | null | bool _ | integer _ | string _ | timestamp _ => cases hw
  | item hmem _ ih =>
    cases v with
    | array items =>
      rw [mapText, mapTextItems_eq_map] at hw
      cases hw
      obtain ⟨item, hitem, heq⟩ := List.mem_map.mp hmem
      exact .item hitem (ih heq)
    | null | bool _ | integer _ | float _ | string _ | timestamp _ => cases hw

theorem FloatsFinite.mapText (hv : FloatsFinite v) (f : String → String) :
    FloatsFinite (v.mapText f) :=
  fun x hx => hv x (hx.of_mapText rfl)

theorem FloatsFinite.of_mem_bounds (hv : FloatsFinite v) {bind : Value}
    (h : bind ∈ Operation.bounds v) : FloatsFinite bind := by
  cases v with
  | array items => exact floatsFinite_array_iff.mp hv bind h
  | null | bool _ | integer _ | float _ | string _ | timestamp _ =>
    rcases List.mem_pair.mp h with rfl | rfl
    · exact hv
    · exact hv

theorem FloatsFinite.of_mem_compile {operation : Operation} (hv : FloatsFinite v) (column : String)
    {bind : Value} (h : bind ∈ (operation.compile column v).binds) : FloatsFinite bind := by
  cases operation with
  | compare operator =>
    rw [List.mem_singleton.mp h]
    exact hv
  | pattern negated before after =>
    rw [List.mem_singleton.mp h]
    exact floatsFinite_string _
  | nullCheck negated => exact absurd h List.not_mem_nil
  | membership negated =>
    rw [List.mem_singleton.mp h]
    exact hv
  | keywords =>
    rw [Operation.keywords_binds] at h
    obtain ⟨word, _, rfl⟩ := List.mem_map.mp h
    exact floatsFinite_string _
  | between => exact hv.of_mem_bounds h

end Value

theorem ConditionKey.floatsFinite_of_mem_compile {key : ConditionKey} {v bind : Value}
    (hv : v.FloatsFinite) (h : bind ∈ (key.compile v).binds) : bind.FloatsFinite := by
  have hchanged : (key.transform v).FloatsFinite :=
    transform_induction (fun f _ h => h.mapText f) hv
  exact hchanged.of_mem_compile _ h

end SearchFilter
