import SearchFilter.Proofs.Json.Numbers
import SearchFilter.Proofs.Params.Conversion
import SearchFilter.Proofs.Value.Floats
/-!
# Finite numbers in parameters

Parameters mirror the document that they are made of, and the numbers of a document that is read from text are finite. So the numbers in parameters are, at every depth of mappings and lists.
-/

namespace SearchFilter

namespace Params

variable {document : Json} {params : Params}

inductive Every (P : Value → Prop) : Params → Prop
  | value {v : Value} (h : P v) : Every P (.value v)
  | mapping {pairs : List (String × Params)} (h : ∀ pair ∈ pairs, Every P pair.2) :
      Every P (.mapping pairs)

theorem MirrorsNumber.floatsFinite {n : Json.Number} {v : Value} (hfinite : n.IsFinite)
    (h : MirrorsNumber n v) : v.FloatsFinite := by
  cases h with
  | unsigned | signed => exact nofun
  | float x => exact Value.floatsFinite_float_iff.mpr (hfinite x rfl)

theorem MirrorsValue.floatsFinite {v : Value} (hfinite : document.FloatsFinite)
    (h : MirrorsValue document v) : v.FloatsFinite := by
  induction document using Json.partsInduction generalizing v with
  | leaf document hleaf =>
    cases h with
    | number h => exact h.floatsFinite (hfinite _ .refl)
    | null | bool | string => exact nofun
    | array => cases hleaf
  | array items ih =>
    cases h with
    | array h =>
      refine Value.floatsFinite_array_iff.mpr fun v hv => ?_
      obtain ⟨item, hitem, hmirrors⟩ := exists_left_of_mem h hv
      exact ih item hitem (Json.floatsFinite_array_iff.mp hfinite item hitem) hmirrors
  | object members ih => cases h

theorem Mirrors.floatsFinite (hfinite : document.FloatsFinite) (h : Mirrors document params) :
    params.Every Value.FloatsFinite := by
  induction document using Json.partsInduction generalizing params with
  | leaf document hleaf =>
    obtain ⟨v, hv, rfl⟩ := (mirrors_iff_of_ne (ne_object_of_leaf hleaf)).mp h
    exact .value (hv.floatsFinite hfinite)
  | array items ih =>
    obtain ⟨v, hv, rfl⟩ := (mirrors_iff_of_ne (array_ne_object items)).mp h
    exact .value (hv.floatsFinite hfinite)
  | object members ih =>
    cases h with
    | value h => cases h
    | @mapping _ pairs hkeys hparts =>
      refine .mapping fun pair hpair => ?_
      obtain ⟨part, hpart, hmirrors⟩ := exists_left_of_mem hparts (List.mem_map_of_mem hpair)
      obtain ⟨member, hmem, rfl⟩ := List.mem_map.mp hpart
      exact ih member hmem (Json.floatsFinite_object_iff.mp hfinite member hmem) hmirrors

theorem floatsFinite_of_ofText {text : String} (h : ofText text = .ok params) :
    params.Every Value.FloatsFinite := by
  rw [ofText] at h
  split at h
  · rename_i document hread
    exact (ofJson_eq_ok_iff.mp h).floatsFinite (Json.floatsFinite_of_ofText? hread)
  · cases h

end Params

end SearchFilter
