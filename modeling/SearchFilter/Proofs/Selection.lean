import Mathlib.Data.List.Basic
import Mathlib.Data.List.Nodup
import Mathlib.Data.List.Perm.Basic
/-!
# The first of a list that fits

A search takes the first element that fits. Where no two elements of the list fit, the order of the list has no part in what it finds.
-/

namespace SearchFilter

variable {α β : Type}

/-- Where no two elements fit, the first that fits is the one that does. -/
theorem find?_eq_some_iff_of_pairwise {fits : α → Bool} {l : List α} {a : α}
    (h : l.Pairwise fun first second => fits first = true → fits second = false) :
    l.find? fits = some a ↔ a ∈ l ∧ fits a = true := by
  induction l with
  | nil => simp only [List.find?_nil, reduceCtorEq, List.not_mem_nil, false_and]
  | cons first rest ih =>
    obtain ⟨hfirst, hrest⟩ := List.pairwise_cons.mp h
    rw [List.find?_cons, List.mem_cons]
    split
    · rename_i hfits
      rw [Option.some.injEq]
      constructor
      · rintro rfl
        exact ⟨.inl rfl, hfits⟩
      · rintro ⟨rfl | hmem, ha⟩
        · rfl
        · cases ha.symm.trans (hfirst a hmem hfits)
    · rename_i hfits
      rw [ih hrest]
      constructor
      · exact fun ⟨hmem, ha⟩ => ⟨.inr hmem, ha⟩
      · rintro ⟨rfl | hmem, ha⟩
        · cases ha.symm.trans hfits
        · exact ⟨hmem, ha⟩

theorem length_filter_le_one_of_pairwise {fits : α → Bool} {l : List α}
    (h : l.Pairwise fun first second => fits first = true → fits second = false) :
    (l.filter fits).length ≤ 1 := by
  cases hfilter : l.filter fits with
  | nil => exact Nat.zero_le 1
  | cons first rest =>
    have hfits : ∀ a ∈ first :: rest, fits a = true := fun a ha =>
      List.of_mem_filter (hfilter ▸ ha)
    have hrest : rest = [] := by
      refine List.eq_nil_iff_forall_not_mem.mpr fun a ha => ?_
      have hapart := (List.pairwise_cons.mp (hfilter ▸ h.filter fits)).1 a ha
      cases (hfits a (List.mem_cons_of_mem _ ha)).symm.trans (hapart (hfits first List.mem_cons_self))
    simp [hrest]

theorem isSome_eq_false_of_ne_some {o : Option α} {o' : Option β}
    (h : ∀ a b, o = some a → o' ≠ some b) (hsome : o.isSome = true) : o'.isSome = false := by
  obtain ⟨a, ha⟩ := Option.isSome_iff_exists.mp hsome
  rw [Option.isSome_eq_false_iff, Option.isNone_iff_eq_none, Option.eq_none_iff_forall_ne_some]
  exact fun b => h a b ha

theorem findSome?_eq_bind_find? (f : α → Option β) (l : List α) :
    l.findSome? f = (l.find? fun a => (f a).isSome).bind f := by
  induction l with
  | nil => rfl
  | cons first rest ih => cases hfirst : f first <;> simp [hfirst, ih]

theorem findSome?_eq_some_iff_of_pairwise {f : α → Option β} {l : List α} {b : β}
    (h : l.Pairwise fun first second => (f first).isSome = true → (f second).isSome = false) :
    l.findSome? f = some b ↔ ∃ a ∈ l, f a = some b := by
  rw [findSome?_eq_bind_find?, Option.bind_eq_some_iff]
  simp only [find?_eq_some_iff_of_pairwise h]
  constructor
  · exact fun ⟨a, ⟨hmem, _⟩, ha⟩ => ⟨a, hmem, ha⟩
  · exact fun ⟨a, hmem, ha⟩ => ⟨a, ⟨hmem, Option.isSome_of_eq_some ha⟩, ha⟩

theorem findSome?_eq_of_perm {f : α → Option β} {l order : List α} (horder : order.Perm l)
    (h : l.Pairwise fun first second => (f first).isSome = true → (f second).isSome = false) :
    order.findSome? f = l.findSome? f := by
  have hapart : order.Pairwise fun first second => (f first).isSome = true → (f second).isSome = false :=
    (horder.pairwise_iff fun hxy hy => by simpa [hy] using hxy).mpr h
  ext b
  simp only [findSome?_eq_some_iff_of_pairwise h, findSome?_eq_some_iff_of_pairwise hapart,
    horder.mem_iff]

end SearchFilter
