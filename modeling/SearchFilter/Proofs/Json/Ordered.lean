import Mathlib.Data.String.Basic
import SearchFilter.Proofs.Json.Reading
/-!
# Objects in order

Objects keep their members in the order of the keys. Inserting a member keeps the order and brings in nothing but this member, so in a document that was read from text the members of every object ascend.
-/

namespace SearchFilter

namespace Json

variable {key : String} {value document : Json} {members : List (String × Json)}

inductive Ordered : Json → Prop
  | null : Ordered .null
  | bool (b : Bool) : Ordered (.bool b)
  | number (n : Number) : Ordered (.number n)
  | string (s : String) : Ordered (.string s)
  | array {items : List Json} (hitems : ∀ item ∈ items, Ordered item) : Ordered (.array items)
  | object {members : List (String × Json)}
      (hkeys : members.Pairwise fun first second => first.1 < second.1)
      (hmembers : ∀ member ∈ members, Ordered member.2) : Ordered (.object members)

/-! ### Inserting members -/

theorem mem_of_mem_insertMember {member : String × Json}
    (h : member ∈ insertMember key value members) : member = (key, value) ∨ member ∈ members := by
  induction members with
  | nil => exact .inl (List.mem_singleton.mp h)
  | cons first rest ih =>
    rw [insertMember] at h
    split_ifs at h
    · exact List.mem_cons.mp h
    · exact (List.mem_cons.mp h).imp_right (List.mem_cons_of_mem _)
    · rcases List.mem_cons.mp h with rfl | hrest
      · exact .inr List.mem_cons_self
      · exact (ih hrest).imp_right (List.mem_cons_of_mem _)

theorem pairwise_insertMember (h : members.Pairwise fun first second => first.1 < second.1) :
    (insertMember key value members).Pairwise fun first second => first.1 < second.1 := by
  induction members with
  | nil => exact List.pairwise_singleton _ _
  | cons first rest ih =>
    obtain ⟨hfirst, hrest⟩ := List.pairwise_cons.mp h
    rw [insertMember]
    split_ifs with hless hsame
    · refine List.pairwise_cons.mpr ⟨fun member hmember => ?_, h⟩
      rcases List.mem_cons.mp hmember with rfl | hmember
      · exact hless
      · exact hless.trans (hfirst member hmember)
    · subst hsame
      exact List.pairwise_cons.mpr ⟨hfirst, hrest⟩
    · refine List.pairwise_cons.mpr ⟨fun member hmember => ?_, ih hrest⟩
      rcases mem_of_mem_insertMember hmember with rfl | hmember
      · exact lt_of_le_of_ne (not_lt.mp hless) (Ne.symm hsame)
      · exact hfirst member hmember

theorem ordered_insertMember (h : Ordered (.object members)) (hvalue : Ordered value) :
    Ordered (.object (insertMember key value members)) := by
  cases h with
  | object hkeys hmembers =>
    refine .object (pairwise_insertMember hkeys) fun member hmember => ?_
    rcases mem_of_mem_insertMember hmember with rfl | hmember
    · exact hvalue
    · exact hmembers member hmember

theorem ordered_ofMembers (h : ∀ member ∈ members, Ordered member.2) :
    Ordered (ofMembers members) :=
  List.foldlRecOn (motive := fun object => Ordered (.object object)) members _
    (.object .nil fun _ hmem => absurd hmem List.not_mem_nil)
    fun _ hobject member hmem => ordered_insertMember hobject (h member hmem)

/-! ### Reading -/

theorem built_ordered : Built Ordered where
  null := .null
  bool := .bool
  number _ := .number _
  string := .string
  array := .array
  members := ordered_ofMembers

theorem ordered_of_ofText? {text : String} (h : ofText? text = some document) :
    Ordered document :=
  of_ofText? built_ordered h

end Json

end SearchFilter
