import SearchFilter.Json.Writing
import SearchFilter.Proofs.Json.Parts
import SearchFilter.Proofs.Numeric.Numerals
/-!
# What is written as null

Null is written as `null`, and so are floating point numbers that are not finite, because JSON has no form for them. Nothing else is.
-/

namespace SearchFilter

namespace Json

variable {document : Json} {x : Binary64}

/-- Null, or a number that is not finite. -/
def IsNull : Json → Prop
  | .null => True
  | .number (.float x) => x.isFinite = false
  | _ => False

def NullFree (document : Json) : Prop := ∀ part, Occurs document part → ¬ part.IsNull

theorem nullFree_leaf_iff (hleaf : Leaf document) : NullFree document ↔ ¬ document.IsNull :=
  forall_occurs_leaf_iff hleaf

theorem nullFree_array_iff {items : List Json} :
    NullFree (.array items) ↔ ∀ item ∈ items, NullFree item :=
  forall_occurs_array_iff.trans (and_iff_right id)

/-! ### Letters of numbers -/

theorem not_mem_toDigits (n : Nat) : 'n' ∉ Nat.toDigits 10 n :=
  fun h => absurd ((Numeral.areDigits_toDigits n).isDigit 'n' h) (by decide)

theorem not_mem_integerText (i : Int) : 'n' ∉ (Numeral.integerText i).toList := by
  intro h
  rcases (Numeral.denotes_integerText i).mem h with hsign | hsign | hdigit
  · exact absurd hsign (by decide)
  · exact absurd hsign (by decide)
  · exact absurd hdigit (by decide)

theorem not_mem_positional (pointZero : Bool) (d : Decimal) :
    'n' ∉ (d.positional pointZero).toList := by
  have hdigits := not_mem_toDigits d.digits
  have htake : ∀ m, 'n' ∉ (Nat.toDigits 10 d.digits).take m := fun m h => hdigits (List.mem_of_mem_take h)
  have hdrop : ∀ m, 'n' ∉ (Nat.toDigits 10 d.digits).drop m := fun m h => hdigits (List.mem_of_mem_drop h)
  simp only [Decimal.positional]
  split_ifs
  · simp [hdigits]
  · simp [hdigits]
  · simp [htake, hdrop]
  · simp [hdigits]

theorem not_mem_scientific (d : Decimal) : 'n' ∉ d.scientific.toList := by
  have hdigits := not_mem_toDigits d.digits
  have hexponent := not_mem_toDigits ((Nat.toDigits 10 d.digits).length + d.exponent - 1 : Int).natAbs
  simp only [Decimal.scientific]
  split
  · rename_i first second rest heq
    rw [heq] at hdigits
    split_ifs
    · simpa [hexponent] using hdigits
    · simpa [hexponent] using hdigits
  · split_ifs
    · simp [hdigits, hexponent]
    · simp [hdigits, hexponent]

theorem not_mem_render_decimal (d : Decimal) : 'n' ∉ (d.render .report).toList := by
  rw [Decimal.render]
  split
  · exact not_mem_positional _ d
  · split_ifs
    · exact not_mem_positional _ d
    · exact not_mem_scientific d

theorem not_mem_render (hx : x.isFinite = true) : 'n' ∉ (x.render .report).toList := by
  have hnan : x.isNaN = false := by
    rw [Binary64.isFinite, decide_eq_true_eq] at hx
    simp [Binary64.isNaN, hx.ne]
  have hsign : 'n' ∉ (if x.isNegative then "-" else "").toList := by
    split_ifs <;> decide
  have hzero : 'n' ∉ (if NumberStyle.report.pointZero then "0.0" else "0").toList := by decide
  have hdecimal := not_mem_render_decimal (x.shortest NumberStyle.report.tie)
  rw [Binary64.render, hnan, hx]
  simp only [Bool.false_eq_true, if_false, Bool.not_true]
  split
  · rw [String.toList_append, List.mem_append]
    exact not_or.mpr ⟨hsign, hzero⟩
  · rw [String.toList_append, List.mem_append]
    exact not_or.mpr ⟨hsign, hdecimal⟩

theorem not_mem_write {n : Number} (h : ¬ IsNull (.number n)) : 'n' ∉ n.write.toList := by
  cases n with
  | unsigned n => exact not_mem_integerText n.toNat
  | signed i => exact not_mem_integerText i.toInt
  | float x =>
    have hx : x.isFinite = true := by simpa [IsNull] using h
    rw [Number.write, if_pos hx]
    exact not_mem_render hx

/-! ### Documents -/

theorem write_eq_null_iff {n : Number} : n.write = "null" ↔ IsNull (.number n) := by
  constructor
  · intro h
    by_contra hnull
    refine not_mem_write hnull ?_
    rw [h]
    decide
  · intro h
    cases n with
    | unsigned | signed => exact absurd h id
    | float x =>
      have hx : x.isFinite = false := h
      rw [Number.write, hx]
      rfl

theorem ne_null_of_head? {text : String} (c : Char) (h : text.toList.head? = some c) (hc : c ≠ 'n') :
    text ≠ "null" := by
  rintro rfl
  exact hc (Option.some.inj h).symm

theorem compact_eq_null_iff : document.compact = "null" ↔ document.IsNull := by
  cases document with
  | null => exact iff_of_true rfl trivial
  | bool b => cases b <;> exact iff_of_false (by decide) id
  | number n =>
    rw [compact]
    exact write_eq_null_iff
  | string s => exact iff_of_false (ne_null_of_head? '"' (by simp [compact, quote]) (by decide)) id
  | array items => exact iff_of_false (ne_null_of_head? '[' (by simp [compact]) (by decide)) id
  | object members => exact iff_of_false (ne_null_of_head? '\x7b' (by simp [compact]) (by decide)) id

theorem head?_block {opening : String} {c : Char} (h : opening.toList = [c]) (level : Nat)
    (closing : String) (parts : List String) :
    (block level opening closing parts).toList.head? = some c := by
  rw [block]
  split_ifs <;> simp [h]

/-- The form over several lines has null in the same places. -/
theorem prettyAt_eq_null_iff {level : Nat} : document.prettyAt level = "null" ↔ document.IsNull := by
  cases document with
  | null => exact iff_of_true rfl trivial
  | bool b =>
    rw [prettyAt]
    cases b <;> exact iff_of_false (by decide) id
  | number n =>
    rw [prettyAt]
    exact write_eq_null_iff
  | string s => exact iff_of_false (ne_null_of_head? '"' (by simp [prettyAt, quote]) (by decide)) id
  | array items =>
    rw [prettyAt]
    exact iff_of_false (ne_null_of_head? '[' (head?_block rfl _ _ _) (by decide)) id
  | object members =>
    rw [prettyAt]
    exact iff_of_false (ne_null_of_head? '\x7b' (head?_block rfl _ _ _) (by decide)) id

end Json

end SearchFilter
