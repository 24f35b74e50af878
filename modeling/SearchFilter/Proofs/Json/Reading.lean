import Mathlib.Data.List.Basic
import SearchFilter.Json.Reading
/-!
# Documents that are read

A document that is read from text is built up from leaves, arrays and objects. So it has every property that these steps give it, and `Json.of_ofText?` says so once for all properties. The functions of the reader call one another with less fuel, and the fuel carries the induction.
-/

namespace SearchFilter

namespace Json

/-- The steps in which a document is built up give it the property. -/
structure Built (P : Json → Prop) : Prop where
  null : P .null
  bool : ∀ b, P (.bool b)
  number : ∀ {negative s n rest}, number? negative s = some (n, rest) → P (.number n)
  string : ∀ s, P (.string s)
  array : ∀ {items}, (∀ item ∈ items, P item) → P (.array items)
  members : ∀ {members : List (String × Json)}, (∀ member ∈ members, P member.2) → P (ofMembers members)

/-- What each of the functions that read documents yields with so much fuel. -/
structure Reads (P : Json → Prop) (fuel : Nat) : Prop where
  value : ∀ {s document rest}, value? fuel s = some (document, rest) → P document
  items : ∀ {s items rest}, items? fuel s = some (items, rest) → ∀ item ∈ items, P item
  members : ∀ {s members rest}, members? fuel s = some (members, rest) →
    ∀ member ∈ members, P member.2

variable {P : Json → Prop} {document : Json} {members : List (String × Json)}

theorem of_value? {fuel : Nat} (hP : Built P) (ih : Reads P fuel) {s rest : List Char}
    (h : value? (fuel + 1) s = some (document, rest)) : P document := by
  rw [value?] at h
  split at h
  · cases h
  · split_ifs at h
    · obtain ⟨_, _, h⟩ := Option.map_eq_some_iff.mp h
      cases h
      exact hP.string _
    · split at h
      · cases h
        exact hP.array fun _ hmem => absurd hmem List.not_mem_nil
      · obtain ⟨_, hitems, h⟩ := Option.map_eq_some_iff.mp h
        cases h
        exact hP.array (ih.items hitems)
    · split at h
      · cases h
        exact hP.members fun _ hmem => absurd hmem List.not_mem_nil
      · obtain ⟨_, hmembers, h⟩ := Option.map_eq_some_iff.mp h
        cases h
        exact hP.members (ih.members hmembers)
    · obtain ⟨_, hnumber, h⟩ := Option.map_eq_some_iff.mp h
      cases h
      exact hP.number hnumber
    · obtain ⟨_, hnumber, h⟩ := Option.map_eq_some_iff.mp h
      cases h
      exact hP.number hnumber
    · obtain ⟨_, _, h⟩ := Option.map_eq_some_iff.mp h
      cases h
      exact hP.null
    · obtain ⟨_, _, h⟩ := Option.map_eq_some_iff.mp h
      cases h
      exact hP.bool true
    · obtain ⟨_, _, h⟩ := Option.map_eq_some_iff.mp h
      cases h
      exact hP.bool false

theorem of_items? {fuel : Nat} (ih : Reads P fuel) {s rest : List Char}
    {items : List Json} (h : items? (fuel + 1) s = some (items, rest)) :
    ∀ item ∈ items, P item := by
  rw [items?] at h
  split at h
  · cases h
  · rename_i item _ hitem
    split at h
    · obtain ⟨⟨others, _⟩, hothers, h⟩ := Option.map_eq_some_iff.mp h
      cases h
      exact List.forall_mem_cons.mpr ⟨ih.value hitem, ih.items hothers⟩
    · cases h
      exact List.forall_mem_singleton.mpr (ih.value hitem)
    · cases h

theorem of_members? {fuel : Nat} (ih : Reads P fuel) {s rest : List Char}
    (h : members? (fuel + 1) s = some (members, rest)) :
    ∀ member ∈ members, P member.2 := by
  rw [members?] at h
  split at h
  · split at h
    · cases h
    · split at h
      · split at h
        · cases h
        · rename_i hvalue
          split at h
          · obtain ⟨⟨others, _⟩, hothers, h⟩ := Option.map_eq_some_iff.mp h
            cases h
            exact List.forall_mem_cons.mpr ⟨ih.value hvalue, ih.members hothers⟩
          · cases h
            exact List.forall_mem_singleton.mpr (ih.value hvalue)
          · cases h
      · cases h
  · cases h

theorem reads (hP : Built P) (fuel : Nat) : Reads P fuel := by
  induction fuel with
  | zero => exact ⟨nofun, nofun, nofun⟩
  | succ fuel ih => exact ⟨of_value? hP ih, of_items? ih, of_members? ih⟩

/-- What the steps of reading give to a document, every document that is read from text has. -/
theorem of_ofText? (hP : Built P) {text : String} (h : ofText? text = some document) : P document := by
  rw [ofText?] at h
  split at h
  · rename_i hread
    split_ifs at h
    cases h
    exact (reads hP _).value hread
  · cases h

end Json

end SearchFilter
