import Mathlib.Data.List.Forall2
import SearchFilter.Params
import SearchFilter.Proofs.Json.Ordered
import SearchFilter.Proofs.Json.Parts
import SearchFilter.Proofs.Outcome
import SearchFilter.Proofs.Text.Encoding
/-!
# Documents as parameters

Parameters hold less than documents do: no object stands in an array, and no whole number is greater than 2 ^ 63 - 1. These are the only reasons for which a document is refused, and the first part of it that is one gives the error. A document that is not refused is mirrored: the same keys in the same order, the same items, the same numbers. So the keys ascend wherever those of the document do, as they do in all documents that are read from text.
-/

namespace SearchFilter

namespace Params

open Json (Node Occurs BelowArray Leaf)

variable {document : Json} {items : List Json} {members : List (String × Json)} {node : Node}

/-! ### What is refused -/

/-- The error for a part of a document, seen by itself. -/
def offence? : Node → Option ParamsError
  | ⟨_, .number (.unsigned n)⟩ =>
    if n.toNat < 2 ^ 63 then none else some (.numberOutOfRange n)
  | ⟨true, .object _⟩ => some .objectInArray
  | _ => none

/-- The error is that of the first part, in the order in which they are read, that has one. -/
def FirstOffence (document : Json) (e : ParamsError) : Prop :=
  ∃ before node after, document.nodes false = before ++ node :: after ∧
    offence? node = some e ∧ ∀ earlier ∈ before, offence? earlier = none

/-- The documents that parameters can hold. -/
structure Convertible (document : Json) : Prop where
  noObject : ∀ members, ¬ BelowArray document (.object members)
  fits : ∀ n : UInt64, Occurs document (.number (.unsigned n)) → n.toNat < 2 ^ 63

/-! ### What is kept -/

inductive MirrorsNumber : Json.Number → Value → Prop
  | unsigned {n : UInt64} {i : Int64} (h : i.toInt = n.toNat) :
      MirrorsNumber (.unsigned n) (.integer i)
  | signed (i : Int64) : MirrorsNumber (.signed i) (.integer i)
  | float (x : Binary64) : MirrorsNumber (.float x) (.float x)

/-- The value is that of the document, and lists agree item by item. -/
inductive MirrorsValue : Json → Value → Prop
  | null : MirrorsValue .null .null
  | bool (b : Bool) : MirrorsValue (.bool b) (.bool b)
  | number {n : Json.Number} {v : Value} (h : MirrorsNumber n v) : MirrorsValue (.number n) v
  | string (s : String) : MirrorsValue (.string s) (.string s)
  | array {items : List Json} {values : List Value} (h : List.Forall₂ MirrorsValue items values) :
      MirrorsValue (.array items) (.array values)

/-- The parameters are those of the document, and mappings agree with objects in their keys, the order of the keys, and what these lead to. -/
inductive Mirrors : Json → Params → Prop
  | value {document : Json} {v : Value} (h : MirrorsValue document v) : Mirrors document (.value v)
  | mapping {members : List (String × Json)} {pairs : List (String × Params)}
      (hkeys : pairs.map Prod.fst = members.map Prod.fst)
      (hparts : List.Forall₂ Mirrors (members.map Prod.snd) (pairs.map Prod.snd)) :
      Mirrors (.object members) (.mapping pairs)

/-- The keys of every mapping ascend, compared by their bytes. -/
inductive Ascending : Params → Prop
  | value (v : Value) : Ascending (.value v)
  | mapping {pairs : List (String × Params)}
      (hkeys : pairs.Pairwise fun first second => Text.bytes first.1 < Text.bytes second.1)
      (hpairs : ∀ pair ∈ pairs, Ascending pair.2) : Ascending (.mapping pairs)

/-! ### Steps of the conversion -/

theorem valuesOfJson_cons (item : Json) (items : List Json) : valuesOfJson (item :: items) =
    valueOfJson item >>= fun v => (valuesOfJson items).map (v :: ·) := by
  rw [valuesOfJson]
  cases valuesOfJson items <;> rfl

theorem pairsOfJson_cons (member : String × Json) (members : List (String × Json)) :
    pairsOfJson (member :: members) =
      ofJson member.2 >>= fun params => (pairsOfJson members).map ((member.1, params) :: ·) := by
  rw [pairsOfJson]
  cases pairsOfJson members <;> rfl

theorem ofJson_of_ne (h : ∀ members, document ≠ .object members) :
    ofJson document = (valueOfJson document).map value := by
  rw [ofJson]
  exact h

theorem ne_object_of_leaf (hleaf : Leaf document) (members : List (String × Json)) :
    document ≠ .object members := by
  cases hleaf <;> exact nofun

theorem array_ne_object (items : List Json) (members : List (String × Json)) :
    Json.array items ≠ .object members := nofun

/-! ### Errors -/

/-- Where a leaf stands has no influence on whether it is refused. -/
theorem offence?_leaf (hleaf : Leaf document) (inArray inArray' : Bool) :
    offence? ⟨inArray, document⟩ = offence? ⟨inArray', document⟩ := by
  cases hleaf with
  | number n => cases n <;> rfl
  | null | bool b | string s => rfl

theorem error?_valuesOfJson
    (h : ∀ item ∈ items,
      Outcome.error? (valueOfJson item) = (item.nodes true).findSome? offence?) :
    Outcome.error? (valuesOfJson items) = (Json.nodesOfItems items).findSome? offence? := by
  induction items with
  | nil => rfl
  | cons item items ih =>
    rw [List.forall_mem_cons] at h
    rw [valuesOfJson_cons, Outcome.error?_bind_map, Json.nodesOfItems, List.findSome?_append, h.1,
      ih h.2]

theorem error?_valueOfJson (document : Json) :
    Outcome.error? (valueOfJson document) = (document.nodes true).findSome? offence? := by
  induction document using Json.partsInduction with
  | leaf document hleaf =>
    rw [Json.nodes_leaf hleaf, List.findSome?_singleton]
    cases hleaf with
    | number n =>
      cases n with
      | unsigned n =>
        rw [valueOfJson, ofNumber, offence?, show Nat.pow 2 63 = 2 ^ 63 from rfl]
        split_ifs <;> rfl
      | signed i => rfl
      | float x => rfl
    | null | bool b | string s => rfl
  | array items ih =>
    rw [valueOfJson, Outcome.error?_map, error?_valuesOfJson ih, Json.nodes]
    rfl
  | object members ih => rfl

theorem error?_pairsOfJson
    (h : ∀ member ∈ members,
      Outcome.error? (ofJson member.2) = (member.2.nodes false).findSome? offence?) :
    Outcome.error? (pairsOfJson members) =
      (Json.nodesOfMembers false members).findSome? offence? := by
  induction members with
  | nil => rfl
  | cons member members ih =>
    rw [List.forall_mem_cons] at h
    rw [pairsOfJson_cons, Outcome.error?_bind_map, Json.nodesOfMembers, List.findSome?_append, h.1,
      ih h.2]

theorem error?_ofJson (document : Json) :
    Outcome.error? (ofJson document) = (document.nodes false).findSome? offence? := by
  induction document using Json.partsInduction with
  | leaf document hleaf =>
    rw [ofJson_of_ne (ne_object_of_leaf hleaf), Outcome.error?_map, error?_valueOfJson,
      Json.nodes_leaf hleaf, Json.nodes_leaf hleaf, List.findSome?_singleton, List.findSome?_singleton,
      offence?_leaf hleaf true false]
  | array items ih =>
    rw [ofJson_of_ne (array_ne_object items), Outcome.error?_map, error?_valueOfJson]
    rfl
  | object members ih =>
    rw [ofJson, Outcome.error?_map, error?_pairsOfJson ih, Json.nodes]
    rfl

theorem ofJson_eq_error_iff {e : ParamsError} :
    ofJson document = .error e ↔ FirstOffence document e := by
  rw [← Outcome.error?_eq_some_iff, error?_ofJson, List.findSome?_eq_some_iff]
  rfl

theorem offence?_eq_none_iff : offence? node = none ↔
    (∀ n : UInt64, node.part = .number (.unsigned n) → n.toNat < 2 ^ 63) ∧
      ∀ members, node.part = .object members → node.inArray = false := by
  obtain ⟨inArray, part⟩ := node
  cases part with
  | number n => cases n <;> simp [offence?]
  | object members => cases inArray <;> simp [offence?]
  | null | bool b | string s | array items => simp [offence?]

theorem convertible_iff :
    Convertible document ↔ ∀ node ∈ document.nodes false, offence? node = none := by
  simp only [offence?_eq_none_iff]
  constructor
  · rintro h ⟨inArray, part⟩ hnode
    constructor
    · rintro n rfl
      exact h.fits n (Json.exists_mem_nodes_iff.mp ⟨inArray, hnode⟩)
    · rintro members rfl
      cases inArray with
      | false => rfl
      | true => exact absurd (Json.mem_nodes_false_iff.mp hnode) (h.noObject members)
  · intro h
    refine ⟨fun members hobject => ?_, fun n hnumber => ?_⟩
    · cases (h _ (Json.mem_nodes_false_iff.mpr hobject)).2 members rfl
    · obtain ⟨inArray, hnode⟩ := Json.exists_mem_nodes_iff.mpr hnumber
      exact (h _ hnode).1 n rfl

theorem exists_ofJson_iff : (∃ params, ofJson document = .ok params) ↔ Convertible document := by
  rw [← Outcome.error?_eq_none_iff, error?_ofJson, List.findSome?_eq_none_iff, convertible_iff]

/-! ### Results -/

theorem ofNumber_eq_ok_iff {n : Json.Number} {v : Value} :
    ofNumber n = .ok v ↔ MirrorsNumber n v := by
  cases n with
  | unsigned n =>
    rw [ofNumber]
    split_ifs with hfits
    · have hvalue : (Int64.ofInt n.toNat).toInt = n.toNat :=
        Int64.toInt_ofInt_of_le (by omega) (by exact_mod_cast hfits)
      constructor
      · intro h
        cases h
        exact .unsigned hvalue
      · rintro ⟨h⟩
        rw [← Int64.toInt_inj.mp (hvalue.trans h.symm)]
    · constructor
      · exact nofun
      · rintro ⟨h⟩
        rename_i i
        have hlarge := i.toInt_lt
        rw [h] at hlarge
        exact absurd (by exact_mod_cast hlarge) hfits
  | signed i | float x =>
    constructor
    · intro h
      cases h
      constructor
    · rintro ⟨⟩
      rfl

theorem valuesOfJson_eq_ok_iff {values : List Value}
    (h : ∀ item ∈ items, ∀ v, valueOfJson item = .ok v ↔ MirrorsValue item v) :
    valuesOfJson items = .ok values ↔ List.Forall₂ MirrorsValue items values := by
  induction items generalizing values with
  | nil =>
    rw [valuesOfJson, List.forall₂_nil_left_iff, Except.ok.injEq, eq_comm]
  | cons item items ih =>
    rw [List.forall_mem_cons] at h
    simp only [valuesOfJson_cons, Outcome.bind_eq_ok_iff, Outcome.map_eq_ok_iff,
      List.forall₂_cons_left_iff, h.1, ih h.2]
    constructor
    · rintro ⟨v, hv, values, hvalues, rfl⟩
      exact ⟨v, values, hv, hvalues, rfl⟩
    · rintro ⟨v, values, hv, hvalues, rfl⟩
      exact ⟨v, hv, values, hvalues, rfl⟩

theorem valueOfJson_eq_ok_iff {v : Value} :
    valueOfJson document = .ok v ↔ MirrorsValue document v := by
  induction document using Json.partsInduction generalizing v with
  | leaf document hleaf =>
    cases hleaf with
    | number n =>
      rw [valueOfJson, ofNumber_eq_ok_iff]
      exact ⟨.number, fun h => by cases h; assumption⟩
    | null | bool b | string s =>
      constructor
      · intro h
        cases h
        constructor
      · rintro ⟨⟩
        rfl
  | array items ih =>
    rw [valueOfJson, Outcome.map_eq_ok_iff]
    simp only [valuesOfJson_eq_ok_iff fun item hmem v => ih item hmem]
    constructor
    · rintro ⟨values, hvalues, rfl⟩
      exact .array hvalues
    · rintro ⟨⟩
      rename_i values hvalues
      exact ⟨values, hvalues, rfl⟩
  | object members ih => exact ⟨nofun, nofun⟩

theorem pairsOfJson_eq_ok_iff {pairs : List (String × Params)}
    (h : ∀ member ∈ members, ∀ params, ofJson member.2 = .ok params ↔ Mirrors member.2 params) :
    pairsOfJson members = .ok pairs ↔ pairs.map Prod.fst = members.map Prod.fst ∧
      List.Forall₂ Mirrors (members.map Prod.snd) (pairs.map Prod.snd) := by
  induction members generalizing pairs with
  | nil =>
    rw [pairsOfJson, Except.ok.injEq, List.map_nil, List.map_nil, List.forall₂_nil_left_iff,
      List.map_eq_nil_iff, List.map_eq_nil_iff, and_self, eq_comm]
  | cons member members ih =>
    rw [List.forall_mem_cons] at h
    simp only [pairsOfJson_cons, Outcome.bind_eq_ok_iff, Outcome.map_eq_ok_iff, h.1, ih h.2]
    cases pairs with
    | nil => simp
    | cons pair pairs =>
      obtain ⟨key, params⟩ := pair
      simp only [List.map_cons, List.cons.injEq, Prod.mk.injEq, List.forall₂_cons]
      constructor
      · rintro ⟨params, hparams, pairs, ⟨hkeys, hparts⟩, ⟨rfl, rfl⟩, rfl⟩
        exact ⟨⟨rfl, hkeys⟩, hparams, hparts⟩
      · rintro ⟨⟨rfl, hkeys⟩, hparams, hparts⟩
        exact ⟨params, hparams, pairs, ⟨hkeys, hparts⟩, ⟨rfl, rfl⟩, rfl⟩

theorem mirrors_iff_of_ne {params : Params} (h : ∀ members, document ≠ .object members) :
    Mirrors document params ↔ ∃ v, MirrorsValue document v ∧ value v = params := by
  constructor
  · intro hmirrors
    cases hmirrors with
    | value hv => exact ⟨_, hv, rfl⟩
    | mapping hkeys hparts => exact absurd rfl (h _)
  · rintro ⟨v, hv, rfl⟩
    exact .value hv

theorem ofJson_eq_ok_iff {params : Params} :
    ofJson document = .ok params ↔ Mirrors document params := by
  induction document using Json.partsInduction generalizing params with
  | leaf document hleaf =>
    have hne := ne_object_of_leaf hleaf
    simp only [ofJson_of_ne hne, Outcome.map_eq_ok_iff, valueOfJson_eq_ok_iff, mirrors_iff_of_ne hne]
  | array items ih =>
    have hne := array_ne_object items
    simp only [ofJson_of_ne hne, Outcome.map_eq_ok_iff, valueOfJson_eq_ok_iff, mirrors_iff_of_ne hne]
  | object members ih =>
    rw [ofJson, Outcome.map_eq_ok_iff]
    simp only [pairsOfJson_eq_ok_iff fun member hmem params => ih member hmem]
    constructor
    · rintro ⟨pairs, ⟨hkeys, hparts⟩, rfl⟩
      exact .mapping hkeys hparts
    · intro h
      cases h with
      | value h => cases h
      | mapping hkeys hparts => exact ⟨_, ⟨hkeys, hparts⟩, rfl⟩

/-! ### Keys -/

theorem exists_left_of_mem {α β : Type} {R : α → β → Prop} {l : List α} {l' : List β} {b : β}
    (h : List.Forall₂ R l l') (hmem : b ∈ l') : ∃ a ∈ l, R a b := by
  induction h with
  | nil => exact absurd hmem List.not_mem_nil
  | @cons a b' _ _ hfirst _ ih =>
    rcases List.mem_cons.mp hmem with rfl | hrest
    · exact ⟨a, List.mem_cons_self, hfirst⟩
    · obtain ⟨a, ha, hab⟩ := ih hrest
      exact ⟨a, List.mem_cons_of_mem _ ha, hab⟩

theorem ascending_of_mirrors {params : Params} (hordered : document.Ordered)
    (h : Mirrors document params) : Ascending params := by
  induction document using Json.partsInduction generalizing params with
  | leaf document hleaf =>
    obtain ⟨v, _, rfl⟩ := (mirrors_iff_of_ne (ne_object_of_leaf hleaf)).mp h
    exact .value v
  | array items ih =>
    obtain ⟨v, _, rfl⟩ := (mirrors_iff_of_ne (array_ne_object items)).mp h
    exact .value v
  | object members ih =>
    cases hordered with
    | object hascend hmembers =>
      cases h with
      | value h => exact .value _
      | @mapping _ pairs hkeys hparts =>
        refine .mapping ?_ fun pair hpair => ?_
        · have hfirst : (members.map Prod.fst).Pairwise (· < ·) := List.pairwise_map.mpr hascend
          rw [← hkeys, List.pairwise_map] at hfirst
          exact hfirst.imp Text.bytes_lt_bytes_iff.mpr
        · obtain ⟨part, hpart, hmirrors⟩ :=
            exists_left_of_mem hparts (List.mem_map_of_mem hpair)
          obtain ⟨member, hmem, rfl⟩ := List.mem_map.mp hpart
          exact ih member hmem (hmembers member hmem) hmirrors

theorem ascending_of_ofText {text : String} {params : Params} (h : ofText text = .ok params) :
    Ascending params := by
  rw [ofText] at h
  split at h
  · rename_i document hread
    exact ascending_of_mirrors (Json.ordered_of_ofText? hread) (ofJson_eq_ok_iff.mp h)
  · cases h

theorem ascending_of_ofBytes {bytes : ByteArray} {params : Params}
    (h : ofBytes bytes = .ok params) : Ascending params := by
  rw [ofBytes] at h
  split at h
  · exact ascending_of_ofText h
  · cases h

/-- What becomes of a document: it is converted if parameters can hold it, nothing of it is changed, and otherwise its first part that is refused gives the error. The keys of all parameters that are read ascend. -/
theorem conversion_exact :
    (∀ document, ((∃ params, ofJson document = .ok params) ↔ Convertible document) ∧
      (∀ params, ofJson document = .ok params ↔ Mirrors document params) ∧
      ∀ e, ofJson document = .error e ↔ FirstOffence document e) ∧
    (∀ text params, ofText text = .ok params → Ascending params) ∧
    ∀ bytes params, ofBytes bytes = .ok params → Ascending params := by
  refine ⟨fun document => ⟨exists_ofJson_iff, fun params => ofJson_eq_ok_iff, fun e => ?_⟩, ?_, ?_⟩
  · exact ofJson_eq_error_iff
  · exact fun text params h => ascending_of_ofText h
  · exact fun bytes params h => ascending_of_ofBytes h

def sampleText : String := "\x7b\"b\": [1, [true]], \"a\": \x7b\"c\": null\x7d\x7d"

/-- A text whose keys do not ascend, and a document with both errors in an array. -/
theorem conversion_exact_sample :
    (∃ document params, Json.ofText? sampleText = some document ∧
      ofText sampleText = .ok params ∧ Convertible document ∧ Mirrors document params ∧
      Ascending params) ∧
    FirstOffence (.object [("a", .null),
      ("b", .array [.object [], .number (.unsigned 9223372036854775808)])]) .objectInArray := by
  obtain ⟨hjson, htext, _⟩ := conversion_exact
  obtain ⟨document, hdocument⟩ := Option.isSome_iff_exists.mp
    (show (Json.ofText? sampleText).isSome = true by decide +kernel)
  obtain ⟨params, hparams⟩ := Outcome.exists_of_isOk
    (show (ofText sampleText).isOk = true by decide +kernel)
  have hconverted : ofJson document = .ok params := by
    rw [ofText, hdocument] at hparams
    exact hparams
  exact ⟨⟨document, params, hdocument, hparams, (hjson document).1.mp ⟨params, hconverted⟩,
    ((hjson document).2.1 params).mp hconverted, htext sampleText params hparams⟩,
    ((hjson _).2.2 _).mp rfl⟩

end Params

end SearchFilter
