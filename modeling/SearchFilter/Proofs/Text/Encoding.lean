import Mathlib.Data.String.Basic
import Mathlib.Tactic.Common
/-!
# The order of texts

Texts are compared character by character. Where they are kept as UTF-8 they are compared byte by byte instead, and this is the same order: the first byte of a character says how many follow, more bytes belong to larger characters, and characters with equally many bytes compare as their bytes do.
-/

namespace SearchFilter

namespace Text

variable {s t : String}

def bytes (text : String) : List UInt8 := text.toUTF8.data.toList

theorem bytes_eq (text : String) : bytes text = text.toList.flatMap String.utf8EncodeChar := by
  rw [bytes, String.toUTF8_eq_toByteArray, ← String.utf8Encode_toList, List.utf8Encode,
    List.data_toByteArray]

theorem encode_append_lt {c d : Char} (h : c < d) (xs ys : List UInt8) :
    String.utf8EncodeChar c ++ xs < String.utf8EncodeChar d ++ ys := by
  have hcode : c.val.toNat < d.val.toNat := h
  have hvalid : d.val.toNat < 0x110000 := d.valid.elim (by omega) (by omega)
  have hbyte : ∀ {m : Nat}, m < 2 ^ 8 → (UInt8.ofNat m).toNat = m := UInt8.toNat_ofNat_of_lt'
  -- of four bytes the first two are decided by this quotient
  have hfront : c.val.toNat / 4096 ≤ d.val.toNat / 4096 := by omega
  simp only [String.utf8EncodeChar]
  split_ifs <;> simp (disch := omega) only [List.cons_append, List.nil_append,
    List.cons_lt_cons_iff, UInt8.lt_iff_toNat_lt, ← UInt8.toNat_inj, hbyte]
  all_goals rcases hfront.lt_or_eq with hless | hsame
  all_goals omega

theorem flatMap_encode_lt {cs ds : List Char} (h : cs < ds) :
    cs.flatMap String.utf8EncodeChar < ds.flatMap String.utf8EncodeChar := by
  induction cs generalizing ds with
  | nil =>
    cases ds with
    | nil => exact absurd h (lt_irrefl _)
    | cons d ds =>
      rw [List.flatMap_nil, List.flatMap_cons]
      cases hencode : String.utf8EncodeChar d with
      | nil => exact absurd hencode String.utf8EncodeChar_ne_nil
      | cons byte rest => exact List.nil_lt_cons _ _
  | cons c cs ih =>
    cases ds with
    | nil => exact absurd h (List.not_lt_nil _)
    | cons d ds =>
      rw [List.flatMap_cons, List.flatMap_cons]
      rcases List.cons_lt_cons_iff.mp h with hless | ⟨rfl, hrest⟩
      · exact encode_append_lt hless _ _
      · exact List.append_left_lt (ih hrest)

theorem bytes_lt_bytes_iff : bytes s < bytes t ↔ s < t := by
  have hmono : ∀ {s t : String}, s < t → bytes s < bytes t := by
    intro s t h
    rw [bytes_eq, bytes_eq]
    exact flatMap_encode_lt (String.lt_iff_toList_lt.mp h)
  constructor
  · intro h
    rcases lt_trichotomy s t with hless | rfl | hgreater
    · exact hless
    · exact absurd h (List.lt_irrefl _)
    · exact absurd h (List.lt_asymm (hmono hgreater))
  · exact hmono

end Text

end SearchFilter
