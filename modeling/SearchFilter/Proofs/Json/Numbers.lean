import SearchFilter.Proofs.Json.Ordered
import SearchFilter.Proofs.Json.Parts
import SearchFilter.Proofs.Numeric.Rounding
/-!
# Floating point numbers in documents

The reader yields finite numbers only. A significand has 64 bits, so the number next to it is at most 2 ^ 64. A negative exponent divides it by powers of ten, none of which is less than 1, and so it stays below this bound. A product with a power of ten may be infinite, and then the text is refused.
-/

namespace SearchFilter

namespace Json

variable {document : Json} {x : Binary64} {s rest : List Char}

/-! ### Significands -/

theorem absorb_le {significand : Nat} (h : significand ≤ maxSignificand) (digits : List Char) :
    (absorb significand digits).1 ≤ maxSignificand := by
  induction digits generalizing significand with
  | nil => exact h
  | cons d rest ih =>
    rw [absorb]
    split_ifs with hfits
    · exact ih hfits
    · exact h

theorem atMost_significand {significand : Nat} (h : significand ≤ maxSignificand) (negative : Bool) :
    (Binary64.nearest negative significand 1).AtMost 64 := by
  refine Binary64.atMost_nearest negative Nat.one_pos ?_
  have hmax : maxSignificand = 2 ^ 64 - 1 := rfl
  omega

/-! ### Exponents -/

theorem one_le_powerOfTen (n : Nat) : 1023 * 2 ^ 52 ≤ (powerOfTen n).magnitude := by
  rw [powerOfTen, Binary64.ofNat, Binary64.magnitude_nearest]
  exact Binary64.le_magnitudeBits Nat.one_pos (Nat.pow_pos (by decide))

theorem atMost_divideByPower {k : ℕ} (steps : Nat) (hx : x.AtMost k) (power : Nat) :
    (divideByPower steps x power).AtMost k := by
  induction steps generalizing x power with
  | zero => exact Nat.zero_le _
  | succ steps ih =>
    rw [divideByPower]
    split_ifs
    · exact hx.div (one_le_powerOfTen power)
    · exact hx
    · exact ih (hx.div (one_le_powerOfTen 308)) _

theorem isFinite_of_scaled? {significand : Nat} {exponent : Int} (h : significand ≤ maxSignificand)
    (hx : scaled? significand exponent = some x) : x.isFinite = true := by
  have hstart : (Binary64.ofNat significand).AtMost 64 := atMost_significand h false
  simp only [scaled?] at hx
  split_ifs at hx with hnegative hsmall hproduct
  · cases hx
    exact (atMost_divideByPower 3 hstart _).isFinite (by decide)
  · cases hx
    exact hproduct
  · cases hx
    exact hstart.isFinite (by decide)

theorem isFinite_of_withExponent? {significand : Nat} {exponent explicit : Int}
    (h : significand ≤ maxSignificand) (hx : withExponent? significand exponent explicit = some x) :
    x.isFinite = true := by
  rw [withExponent?] at hx
  split_ifs at hx
  · cases hx
    rfl
  · cases hx
    rfl
  · exact isFinite_of_scaled? h hx

/-! ### Numbers -/

def Number.IsFinite (n : Number) : Prop := ∀ x, n = .float x → x.isFinite = true

theorem isFinite_wholeNumber {significand : Nat} (h : significand ≤ maxSignificand) (negative : Bool) :
    (wholeNumber negative significand).IsFinite := by
  intro x hx
  rw [wholeNumber] at hx
  split_ifs at hx
  · cases hx
    exact (atMost_significand h true).isFinite (by decide)

theorem isFinite_of_number? {negative : Bool} {n : Number} (h : number? negative s = some (n, rest)) :
    n.IsFinite := by
  unfold number? at h
  simp only [Option.bind_eq_bind] at h
  split at h
  · cases h
  · obtain ⟨⟨fraction, s₁⟩, _, h⟩ := Option.bind_eq_some_iff.mp h
    obtain ⟨⟨explicit, s₂⟩, _, h⟩ := Option.bind_eq_some_iff.mp h
    have hwhole := absorb_le (Nat.zero_le maxSignificand) (Numeral.splitDigits s).1
    split at h
    · cases h
      exact isFinite_wholeNumber hwhole negative
    · obtain ⟨magnitude, hmagnitude, h⟩ := Option.bind_eq_some_iff.mp h
      have hfinite := isFinite_of_withExponent? (absorb_le hwhole _) hmagnitude
      cases h
      intro x hx
      cases hx
      split_ifs
      · rwa [Binary64.isFinite_neg]
      · exact hfinite

/-! ### Documents -/

def FloatsFinite (document : Json) : Prop := ∀ n, Occurs document (.number n) → n.IsFinite

theorem floatsFinite_iff : FloatsFinite document ↔
    (∀ n, document = .number n → n.IsFinite) ∧ ∀ part, Child document part → FloatsFinite part := by
  constructor
  · intro h
    exact ⟨fun n hn => h n (occurs_iff.mpr (.inl hn.symm)), fun part hpart n hn =>
      h n (Relation.ReflTransGen.head hpart hn)⟩
  · intro ⟨hself, hparts⟩ n hn
    rcases occurs_iff.mp hn with hsame | hbelow
    · exact hself n hsame.symm
    · obtain ⟨part, hpart, hn⟩ := below_iff.mp hbelow
      exact hparts part hpart n hn

theorem floatsFinite_leaf (hleaf : Leaf document) (h : ∀ n, document = .number n → n.IsFinite) :
    FloatsFinite document :=
  floatsFinite_iff.mpr ⟨h, fun _ hpart => absurd hpart (not_child_leaf hleaf)⟩

theorem floatsFinite_array_iff {items : List Json} :
    FloatsFinite (.array items) ↔ ∀ item ∈ items, FloatsFinite item := by
  rw [floatsFinite_iff]
  simp [child_array_iff]

theorem floatsFinite_object_iff {members : List (String × Json)} :
    FloatsFinite (.object members) ↔ ∀ member ∈ members, FloatsFinite member.2 := by
  rw [floatsFinite_iff]
  simp only [reduceCtorEq, false_imp_iff, implies_true, true_and]
  exact ⟨fun h member hmem => h member.2 (.member hmem), fun h part hpart => by
    cases hpart with
    | member hmem => exact h _ hmem⟩

theorem floatsFinite_ofMembers {members : List (String × Json)}
    (h : ∀ member ∈ members, FloatsFinite member.2) : FloatsFinite (ofMembers members) := by
  refine List.foldlRecOn (motive := fun object => FloatsFinite (.object object)) members _
    (floatsFinite_object_iff.mpr fun _ hmem => absurd hmem List.not_mem_nil) ?_
  intro object hobject member hmem
  rw [floatsFinite_object_iff] at hobject ⊢
  intro other hother
  rcases mem_of_mem_insertMember hother with rfl | hother
  · exact h member hmem
  · exact hobject other hother

theorem built_floatsFinite : Built FloatsFinite where
  null := floatsFinite_leaf .null nofun
  bool b := floatsFinite_leaf (.bool b) nofun
  number h := floatsFinite_leaf (.number _) fun n hn => by
    cases hn
    exact isFinite_of_number? h
  string s := floatsFinite_leaf (.string s) nofun
  array := floatsFinite_array_iff.mpr
  members := floatsFinite_ofMembers

theorem floatsFinite_of_ofText? {text : String} (h : ofText? text = some document) :
    FloatsFinite document :=
  of_ofText? built_floatsFinite h

end Json

end SearchFilter
