import Mathlib.Data.List.Basic
import Mathlib.Logic.Relation
import SearchFilter.Json.Document
/-!
# The parts of a document

A document is made of parts: itself, and the parts of its items or members. `Json.nodes` lists them in the order in which they are read, a part before what stands in it, each with whether it stands below an array. The list has exactly the parts that occur in the document.
-/

namespace SearchFilter

namespace Json

variable {document part : Json} {items : List Json} {members : List (String × Json)}

inductive Leaf : Json → Prop
  | null : Leaf .null
  | bool (b : Bool) : Leaf (.bool b)
  | number (n : Number) : Leaf (.number n)
  | string (s : String) : Leaf (.string s)

/-- What leaves have, and arrays and objects if their items and members have it, all documents have. -/
@[elab_as_elim]
theorem partsInduction {motive : Json → Prop} (leaf : ∀ document, Leaf document → motive document)
    (array : ∀ items, (∀ item ∈ items, motive item) → motive (.array items))
    (object : ∀ members, (∀ member ∈ members, motive member.2) → motive (.object members))
    (document : Json) : motive document :=
  @Json.rec motive (fun items => ∀ item ∈ items, motive item)
    (fun members => ∀ member ∈ members, motive member.2) (fun member => motive member.2)
    (leaf _ .null) (fun b => leaf _ (.bool b)) (fun n => leaf _ (.number n))
    (fun s => leaf _ (.string s)) array object (fun _ hmem => absurd hmem List.not_mem_nil)
    (fun _ _ hfirst hrest => List.forall_mem_cons.mpr ⟨hfirst, hrest⟩)
    (fun _ hmem => absurd hmem List.not_mem_nil)
    (fun _ _ hfirst hrest => List.forall_mem_cons.mpr ⟨hfirst, hrest⟩) (fun _ _ hpart => hpart)
    document

/-! ### Occurrences -/

inductive Child : Json → Json → Prop
  | item {items : List Json} {part : Json} (h : part ∈ items) : Child (.array items) part
  | member {members : List (String × Json)} {member : String × Json} (h : member ∈ members) :
      Child (.object members) member.2

/-- The part is the document or stands somewhere in it. -/
def Occurs (document part : Json) : Prop := Relation.ReflTransGen Child document part

/-- The part stands somewhere in the document and is not the document. -/
def Below (document part : Json) : Prop := Relation.TransGen Child document part

/-- The part stands in an array of the document. -/
def BelowArray (document part : Json) : Prop :=
  ∃ items, Occurs document (.array items) ∧ Below (.array items) part

theorem not_child_leaf (hleaf : Leaf document) : ¬ Child document part := by
  intro h
  cases hleaf <;> cases h

theorem child_array_iff : Child (.array items) part ↔ part ∈ items := by
  refine ⟨fun h => ?_, .item⟩
  cases h
  assumption

theorem child_object_iff :
    Child (.object members) part ↔ ∃ member ∈ members, member.2 = part := by
  refine ⟨fun h => ?_, fun ⟨member, hmem, hpart⟩ => hpart ▸ .member hmem⟩
  cases h with
  | member hmem => exact ⟨_, hmem, rfl⟩

theorem below_iff : Below document part ↔ ∃ child, Child document child ∧ Occurs child part :=
  Relation.TransGen.head'_iff

theorem not_below_leaf (hleaf : Leaf document) : ¬ Below document part := by
  simp [below_iff, not_child_leaf hleaf]

theorem below_array_iff : Below (.array items) part ↔ ∃ item ∈ items, Occurs item part := by
  simp only [below_iff, child_array_iff]

theorem below_object_iff :
    Below (.object members) part ↔ ∃ member ∈ members, Occurs member.2 part := by
  simp only [below_iff, child_object_iff, exists_exists_and_eq_and]

theorem occurs_iff : Occurs document part ↔ part = document ∨ Below document part :=
  Relation.reflTransGen_iff_eq_or_transGen

theorem belowArray_array_iff : BelowArray (.array items) part ↔ Below (.array items) part := by
  constructor
  · rintro ⟨inner, houter, hinner⟩
    exact hinner.trans_right houter
  · exact fun h => ⟨items, .refl, h⟩

theorem belowArray_object_iff :
    BelowArray (.object members) part ↔ ∃ member ∈ members, BelowArray member.2 part := by
  constructor
  · rintro ⟨items, houter, hinner⟩
    rcases occurs_iff.mp houter with hsame | hbelow
    · cases hsame
    · obtain ⟨member, hmem, houter⟩ := below_object_iff.mp hbelow
      exact ⟨member, hmem, items, houter, hinner⟩
  · rintro ⟨member, hmem, items, houter, hinner⟩
    exact ⟨items, .head (.member hmem) houter, hinner⟩

theorem not_belowArray_leaf (hleaf : Leaf document) : ¬ BelowArray document part := by
  rintro ⟨items, houter, _⟩
  rcases occurs_iff.mp houter with rfl | hbelow
  · cases hleaf
  · exact not_below_leaf hleaf hbelow

section

variable {P : Json → Prop}

theorem forall_occurs_leaf_iff (hleaf : Leaf document) :
    (∀ part, Occurs document part → P part) ↔ P document := by
  simp [occurs_iff, not_below_leaf hleaf]

theorem forall_occurs_array_iff : (∀ part, Occurs (.array items) part → P part) ↔
    P (.array items) ∧ ∀ item ∈ items, ∀ part, Occurs item part → P part := by
  constructor
  · intro h
    exact ⟨h _ .refl, fun item hmem part hpart => h part (.head (.item hmem) hpart)⟩
  · intro ⟨hself, hitems⟩ part hpart
    rcases occurs_iff.mp hpart with rfl | hbelow
    · exact hself
    · obtain ⟨item, hmem, hpart⟩ := below_array_iff.mp hbelow
      exact hitems item hmem part hpart

end

/-! ### The list of the parts -/

/-- A part in its place. -/
structure Node where
  inArray : Bool
  part : Json

mutual

/-- The parts in the order in which they are read. -/
def nodes (inArray : Bool) : Json → List Node
  | .array items => ⟨inArray, .array items⟩ :: nodesOfItems items
  | .object members => ⟨inArray, .object members⟩ :: nodesOfMembers inArray members
  | leaf => [⟨inArray, leaf⟩]

def nodesOfItems : List Json → List Node
  | [] => []
  | item :: items => nodes true item ++ nodesOfItems items

def nodesOfMembers (inArray : Bool) : List (String × Json) → List Node
  | [] => []
  | (_, document) :: members => nodes inArray document ++ nodesOfMembers inArray members

end

variable {inArray : Bool} {node : Node}

theorem nodes_leaf (hleaf : Leaf document) : document.nodes inArray = [⟨inArray, document⟩] := by
  cases hleaf <;> rfl

theorem mem_nodesOfItems : node ∈ nodesOfItems items ↔ ∃ item ∈ items, node ∈ item.nodes true := by
  induction items with
  | nil => simp [nodesOfItems]
  | cons item items ih => simp [nodesOfItems, ih]

theorem mem_nodesOfMembers : node ∈ nodesOfMembers inArray members ↔
    ∃ member ∈ members, node ∈ member.2.nodes inArray := by
  induction members with
  | nil => simp [nodesOfMembers]
  | cons member members ih => simp [nodesOfMembers, ih]

theorem exists_mem_nodes_iff :
    (∃ flag, ⟨flag, part⟩ ∈ document.nodes inArray) ↔ Occurs document part := by
  induction document using partsInduction generalizing inArray with
  | leaf document hleaf =>
    simp [nodes_leaf hleaf, occurs_iff, not_below_leaf hleaf]
  | array items ih =>
    rw [occurs_iff, below_array_iff]
    simp only [nodes, List.mem_cons, mem_nodesOfItems, Node.mk.injEq, exists_or, exists_and_right,
      exists_eq, true_and]
    refine or_congr_right (exists_comm.trans (exists_congr fun item => ?_))
    rw [exists_and_left]
    exact and_congr_right fun hmem => ih item hmem
  | object members ih =>
    rw [occurs_iff, below_object_iff]
    simp only [nodes, List.mem_cons, mem_nodesOfMembers, Node.mk.injEq, exists_or, exists_and_right,
      exists_eq, true_and]
    refine or_congr_right (exists_comm.trans (exists_congr fun member => ?_))
    rw [exists_and_left]
    exact and_congr_right fun hmem => ih member hmem

theorem inArray_of_mem_nodes (h : node ∈ document.nodes true) : node.inArray = true := by
  induction document using partsInduction with
  | leaf document hleaf =>
    rw [nodes_leaf hleaf, List.mem_singleton] at h
    rw [h]
  | array items ih =>
    rw [nodes, List.mem_cons, mem_nodesOfItems] at h
    rcases h with rfl | ⟨item, hmem, hnode⟩
    · rfl
    · exact ih item hmem hnode
  | object members ih =>
    rw [nodes, List.mem_cons, mem_nodesOfMembers] at h
    rcases h with rfl | ⟨member, hmem, hnode⟩
    · rfl
    · exact ih member hmem hnode

theorem mem_nodes_true_iff : ⟨true, part⟩ ∈ document.nodes true ↔ Occurs document part := by
  rw [← exists_mem_nodes_iff]
  constructor
  · exact fun h => ⟨true, h⟩
  · rintro ⟨flag, h⟩
    cases inArray_of_mem_nodes h
    exact h

theorem mem_nodes_false_iff : ⟨true, part⟩ ∈ document.nodes false ↔ BelowArray document part := by
  induction document using partsInduction with
  | leaf document hleaf =>
    simp [nodes_leaf hleaf, not_belowArray_leaf hleaf]
  | array items ih =>
    rw [belowArray_array_iff, below_array_iff, nodes, List.mem_cons, mem_nodesOfItems]
    simp only [Node.mk.injEq, Bool.true_eq_false, false_and, false_or, mem_nodes_true_iff]
  | object members ih =>
    rw [belowArray_object_iff, nodes, List.mem_cons, mem_nodesOfMembers]
    simp only [Node.mk.injEq, Bool.true_eq_false, false_and, false_or]
    exact exists_congr fun member => and_congr_right fun hmem => ih member hmem

end Json

end SearchFilter
