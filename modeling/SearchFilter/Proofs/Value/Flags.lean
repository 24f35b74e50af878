import SearchFilter.Kind.Operation
import SearchFilter.Proofs.Lookup
/-!
# Flags

A flag is given as a truth value, as one of the integers 0 and 1, or as a text that is one of eight words once blank characters around it are gone and capitals are small. `Value.MeansFlag` says which flag a value stands for, and `Value.flagRefusal` what is said of a value that stands for none.

Two tables decide this, one for conditions that are switched on or off and one for columns that hold truth values. They agree on every value, so what a null check takes, a comparison with such a column takes, for the same flag, and both refuse all other values in the same words.
-/

namespace SearchFilter

namespace Value

variable {v w : Value} {s : String} {b : Bool}

def flagWords : Bool → List String
  | true => ["true", "t", "1", "yes"]
  | false => ["false", "f", "0", "no"]

/-- The flag that a value stands for. -/
inductive MeansFlag : Value → Bool → Prop
  | bool (b : Bool) : MeansFlag (.bool b) b
  | zero : MeansFlag (.integer 0) false
  | one : MeansFlag (.integer 1) true
  | text {s : String} {b : Bool} (h : (Text.trim s).toLower ∈ flagWords b) :
      MeansFlag (.string s) b

def flagRefusal : Value → CoercionError
  | string s => .notBoolean s
  | v => .mismatch .boolean v.form

/-! ### What values stand for -/

theorem flagOfText?_eq_some_iff :
    flagOfText? s = some b ↔ (Text.trim s).toLower ∈ flagWords b := by
  rw [flagOfText?]
  generalize (Text.trim s).toLower = word
  simp only [flagTexts, lookup_cons_eq_ite, List.lookup_nil]
  cases b with
  | true => grind [flagWords]
  | false => grind [flagWords]

example : flagOfText? " YES\n" = some true := by decide +kernel

theorem meansFlag_string_iff : MeansFlag (string s) b ↔ flagOfText? s = some b := by
  rw [flagOfText?_eq_some_iff]
  constructor
  · rintro ⟨⟩
    assumption
  · exact .text

theorem meansFlag_integer_iff {i : Int64} :
    MeansFlag (integer i) b ↔ i = 0 ∧ b = false ∨ i = 1 ∧ b = true := by
  constructor
  · rintro ⟨⟩
    · exact .inl ⟨rfl, rfl⟩
    · exact .inr ⟨rfl, rfl⟩
  · rintro (⟨rfl, rfl⟩ | ⟨rfl, rfl⟩)
    · exact .zero
    · exact .one

/-! ### The two tables -/

theorem toBoolean_eq_ok_iff : toBoolean v = .ok w ↔ ∃ b, MeansFlag v b ∧ w = .bool b := by
  cases v with
  | bool b =>
    constructor
    · rintro ⟨⟩
      exact ⟨b, .bool b, rfl⟩
    · rintro ⟨_, ⟨⟩, rfl⟩
      rfl
  | integer i =>
    simp only [toBoolean, meansFlag_integer_iff]
    by_cases hzero : i = 0
    · simp [hzero, eq_comm]
    · by_cases hone : i = 1
      · simp [hone, eq_comm]
      · simp [hzero, hone, mismatch]
  | string s =>
    simp only [toBoolean, meansFlag_string_iff]
    cases flagOfText? s with
    | none => simp
    | some b => simp [eq_comm]
  | null | float x | timestamp t | array items =>
    refine iff_of_false nofun ?_
    rintro ⟨_, ⟨⟩, _⟩

theorem eq_flagRefusal_of_toBoolean {e : CoercionError} (h : toBoolean v = .error e) :
    e = v.flagRefusal := by
  cases v with
  | bool b => cases h
  | integer i =>
    rw [toBoolean] at h
    split at h
    · cases h
    · split at h
      · cases h
      · cases h
        rfl
  | string s =>
    rw [toBoolean] at h
    split at h
    · cases h
    · cases h
      rfl
  | null | float x | timestamp t | array items =>
    cases h
    rfl

theorem toBoolean_eq_error_iff {e : CoercionError} :
    toBoolean v = .error e ↔ (∀ b, ¬ MeansFlag v b) ∧ e = v.flagRefusal := by
  constructor
  · intro h
    refine ⟨fun b hb => ?_, eq_flagRefusal_of_toBoolean h⟩
    have hok : toBoolean v = .ok (.bool b) := toBoolean_eq_ok_iff.mpr ⟨b, hb, rfl⟩
    cases h.symm.trans hok
  · rintro ⟨hnone, rfl⟩
    cases h : toBoolean v with
    | ok w =>
      obtain ⟨b, hb, _⟩ := toBoolean_eq_ok_iff.mp h
      exact absurd hb (hnone b)
    | error e => rw [eq_flagRefusal_of_toBoolean h]

theorem coerceFlag_eq_toBoolean (v : Value) : v.coerceFlag = v.toBoolean := by
  cases v with
  | integer i =>
    by_cases hzero : i = 0
    · simp [coerceFlag, toBoolean, hzero]
    · simp [coerceFlag, toBoolean, hzero, mismatch]
  | string s =>
    rw [coerceFlag, toBoolean]
    cases flagOfText? s <;> rfl
  | null | bool b | float x | timestamp t | array items => rfl

/-- The two tables agree: what one takes for a flag, the other takes for the same flag, and what one refuses, the other refuses for the same reason. So a null check on a column of any type and a comparison with a column of truth values are given the same flag by the same values. -/
theorem coerceFlag_eq_coerceScalar (parseTemporal : String → Option Timestamp) (v : Value) :
    v.coerceFlag = v.coerceScalar parseTemporal .boolean ∧
    (∀ w, v.coerceFlag = .ok w ↔ ∃ b, MeansFlag v b ∧ w = .bool b) ∧
    (∀ e, v.coerceFlag = .error e ↔ (∀ b, ¬ MeansFlag v b) ∧ e = v.flagRefusal) ∧
    ∀ type negated operator,
      Operation.coerce parseTemporal type v (.nullCheck negated) =
        Operation.coerce parseTemporal .boolean v (.compare operator) := by
  have hsame : v.coerceFlag = v.coerceScalar parseTemporal .boolean := coerceFlag_eq_toBoolean v
  refine ⟨hsame, fun w => ?_, fun e => ?_, fun _ _ _ => hsame⟩
  · rw [coerceFlag_eq_toBoolean, toBoolean_eq_ok_iff]
  · rw [coerceFlag_eq_toBoolean, toBoolean_eq_error_iff]

end Value

end SearchFilter
