import Mathlib.Data.List.Basic
import SearchFilter.Proofs.Text.Images
import SearchFilter.Text.Alphanumeric
import SearchFilter.Text.LetterCase
/-!
# What a change of case does to a character

A change of case replaces a text character by character, but for the final sigma. The tables of case mappings and of alphanumeric characters are compared run by run: a run and its image mostly lie in one range, and only where they do not are their points looked at one by one.

Two facts come out of it. Characters that are not alphanumeric stay as they are. And a character is `Lasting` if it is alphanumeric, lies beyond the first 128 characters and is none of a few exceptions; its image contains such a character again, if the exceptions are chosen well.
-/

namespace SearchFilter

/-! ### Ranges and runs -/

namespace CodePoint

def covers (ranges : List (Nat × Nat)) (first last : Nat) : Bool :=
  ranges.any fun range => range.1 ≤ first && last ≤ range.2

theorem inRanges_of_covers {ranges : List (Nat × Nat)} {first last : Nat} {c : Char}
    (h : covers ranges first last = true) (hfirst : first ≤ c.toNat) (hlast : c.toNat ≤ last) :
    inRanges ranges c = true := by
  obtain ⟨range, hmem, hrange⟩ := List.any_eq_true.mp h
  rw [Bool.and_eq_true, decide_eq_true_eq, decide_eq_true_eq] at hrange
  refine List.any_eq_true.mpr ⟨range, hmem, ?_⟩
  rw [Bool.and_eq_true, decide_eq_true_eq, decide_eq_true_eq]
  omega

end CodePoint

namespace Text

/-- The ranges of alphanumeric characters in which a case mapping begins or ends. -/
def caseRanges : List (Nat × Nat) :=
  [
    (0x41, 0x5A), (0x61, 0x7A), (0xB5, 0xB5), (0xC0, 0xD6), (0xD8, 0xF6), (0xF8, 0x2C1),
    (0x345, 0x345), (0x363, 0x374), (0x376, 0x377), (0x37A, 0x37D), (0x37F, 0x37F),
    (0x386, 0x386), (0x388, 0x38A), (0x38C, 0x38C), (0x38E, 0x3A1), (0x3A3, 0x3F5),
    (0x3F7, 0x481), (0x48A, 0x52F), (0x531, 0x556), (0x560, 0x588), (0x10A0, 0x10C5),
    (0x10C7, 0x10C7), (0x10CD, 0x10CD), (0x10D0, 0x10FA), (0x10FC, 0x1248), (0x13A0, 0x13F5),
    (0x13F8, 0x13FD), (0x1C80, 0x1C8A), (0x1C90, 0x1CBA), (0x1CBD, 0x1CBF), (0x1D00, 0x1DBF),
    (0x1E00, 0x1F15), (0x1F18, 0x1F1D), (0x1F20, 0x1F45), (0x1F48, 0x1F4D), (0x1F50, 0x1F57),
    (0x1F59, 0x1F59), (0x1F5B, 0x1F5B), (0x1F5D, 0x1F5D), (0x1F5F, 0x1F7D), (0x1F80, 0x1FB4),
    (0x1FB6, 0x1FBC), (0x1FBE, 0x1FBE), (0x1FC2, 0x1FC4), (0x1FC6, 0x1FCC), (0x1FD0, 0x1FD3),
    (0x1FD6, 0x1FDB), (0x1FE0, 0x1FEC), (0x1FF2, 0x1FF4), (0x1FF6, 0x1FFC), (0x2126, 0x2126),
    (0x212A, 0x212D), (0x212F, 0x2139), (0x214E, 0x214E), (0x2150, 0x2189), (0x24B6, 0x24FF),
    (0x2C00, 0x2CE4), (0x2CEB, 0x2CEE), (0x2CF2, 0x2CF3), (0x2D00, 0x2D25), (0x2D27, 0x2D27),
    (0x2D2D, 0x2D2D), (0xA640, 0xA66E), (0xA67F, 0xA6EF), (0xA722, 0xA788), (0xA78B, 0xA7DC),
    (0xA7F1, 0xA805), (0xAB30, 0xAB5A), (0xAB70, 0xABEA), (0xFB00, 0xFB06), (0xFB13, 0xFB17),
    (0xFF21, 0xFF3A), (0xFF41, 0xFF5A), (0x10400, 0x1049D), (0x104B0, 0x104D3),
    (0x104D8, 0x104FB), (0x10570, 0x1057A), (0x1057C, 0x1058A), (0x1058C, 0x10592),
    (0x10594, 0x10595), (0x10597, 0x105A1), (0x105A3, 0x105B1), (0x105B3, 0x105B9),
    (0x105BB, 0x105BC), (0x10C80, 0x10CB2), (0x10CC0, 0x10CF2), (0x10D40, 0x10D65),
    (0x10D6F, 0x10D85), (0x118A0, 0x118F2), (0x16E40, 0x16E96), (0x16EA0, 0x16EB8),
    (0x16EBB, 0x16ED3), (0x1E900, 0x1E943)]

theorem caseRanges_sublist : caseRanges.Sublist alphanumericRanges := by decide +kernel

theorem isAlphanumeric_of_caseRanges {c : Char} (h : CodePoint.inRanges caseRanges c = true) :
    isAlphanumeric c = true := by
  obtain ⟨range, hmem, hrange⟩ := List.any_eq_true.mp h
  exact List.any_eq_true.mpr ⟨range, caseRanges_sublist.subset hmem, hrange⟩

end Text

namespace CaseRun

open CodePoint

variable {run : CaseRun} {runs : List CaseRun} {c d : Char}

def span (run : CaseRun) : Nat := run.last - run.first

/-- The ranges contain all points of the run when it is moved to this start. -/
def within (ranges : List (Nat × Nat)) (start : Nat) (run : CaseRun) : Bool :=
  covers ranges start (start + run.span) ||
    (List.range (run.span + 1)).all fun i => i % run.step != 0 || covers ranges (start + i) (start + i)

theorem inRanges_of_within {ranges : List (Nat × Nat)} {start n : Nat}
    (h : run.within ranges start = true) (hholds : run.holds n = true)
    (hd : d.toNat = start + (n - run.first)) : inRanges ranges d = true := by
  simp only [holds, Bool.and_eq_true, decide_eq_true_eq, beq_iff_eq] at hholds
  obtain ⟨⟨hfirst, hlast⟩, hstep⟩ := hholds
  have hspan : n - run.first ≤ run.span := by
    unfold span
    omega
  rcases Bool.or_eq_true_iff.mp h with hcovers | hpoints
  · exact inRanges_of_covers hcovers (by omega) (by omega)
  · have hpoint := List.all_eq_true.mp hpoints (n - run.first) (List.mem_range.mpr (by omega))
    rw [Bool.or_eq_true, bne_iff_ne] at hpoint
    exact inRanges_of_covers (hpoint.resolve_left fun hne => hne hstep) (by omega) (by omega)

theorem apply_cases (runs : List CaseRun) (c : Char) :
    apply runs c = c ∨ ∃ run ∈ runs, run.holds c.toNat = true ∧
      apply runs c = Char.ofNat (run.image + (c.toNat - run.first)) := by
  unfold apply
  split
  · rename_i run hrun
    have hholds : run.holds c.toNat = true := by simpa using List.find?_some hrun
    exact .inr ⟨run, List.mem_of_find?_eq_some hrun, hholds, rfl⟩
  · exact .inl rfl

theorem apply_eq_self (hruns : ∀ run ∈ runs, run.within Text.caseRanges run.first = true)
    (hc : Text.isAlphanumeric c = false) : apply runs c = c := by
  rcases apply_cases runs c with hself | ⟨run, hrun, hholds, _⟩
  · exact hself
  · have hfirst : run.first ≤ c.toNat := by
      simp only [holds, Bool.and_eq_true, decide_eq_true_eq] at hholds
      exact hholds.1.1
    have halphanumeric : Text.isAlphanumeric c = true :=
      Text.isAlphanumeric_of_caseRanges (inRanges_of_within (hruns run hrun) hholds (by omega))
    rw [hc] at halphanumeric
    cases halphanumeric

theorem apply_eq_take {bound : Nat} (count : Nat)
    (hbehind : ∀ run ∈ runs.drop count, bound ≤ run.first) (hc : c.toNat < bound) :
    apply runs c = apply (runs.take count) c := by
  have hnone : (runs.drop count).find? (fun run => run.holds c.toNat) = none := by
    refine List.find?_eq_none.mpr fun run hrun hholds => ?_
    have hfirst := hbehind run hrun
    simp only [holds, Bool.and_eq_true, decide_eq_true_eq] at hholds
    omega
  have hfind : runs.find? (fun run => run.holds c.toNat) =
      (runs.take count).find? fun run => run.holds c.toNat := by
    conv_lhs => rw [← List.take_append_drop count runs]
    rw [List.find?_append, hnone, Option.or_none]
  rw [apply, apply, hfind]

end CaseRun

namespace Text

variable {c d : Char} {image s : List Char}

/-! ### The first 128 characters -/

theorem forall_of_lt {bound : Nat} {P : Char → Prop} (h : ∀ n < bound, P (Char.ofNat n))
    (hc : c.toNat < bound) : P c := by
  have hP := h c.toNat hc
  rwa [Char.ofNat_toNat] at hP

theorem lowercaseChar_of_lt (hc : c.toNat < 128) : lowercaseChar c = [c.toLower] := by
  have hbehind : ∀ run ∈ lowercaseRuns.drop 1, 128 ≤ run.first := by decide +kernel
  have hascii : ∀ n < 128, CaseRun.apply (lowercaseRuns.take 1) (Char.ofNat n) =
      (Char.ofNat n).toLower := by decide +kernel
  have hdotted : c ≠ '\u0130' := by
    rintro rfl
    exact absurd hc (by decide)
  rw [lowercaseChar, if_neg hdotted, CaseRun.apply_eq_take 1 hbehind hc]
  exact congrArg (fun d => [d])
    (forall_of_lt (P := fun c => CaseRun.apply (lowercaseRuns.take 1) c = c.toLower) hascii hc)

theorem uppercaseChar_of_lt (hc : c.toNat < 128) : uppercaseChar c = [c.toUpper] := by
  have hbehind : ∀ run ∈ uppercaseRuns.drop 1, 128 ≤ run.first := by decide +kernel
  have hascii : ∀ n < 128, CaseRun.apply (uppercaseRuns.take 1) (Char.ofNat n) =
      (Char.ofNat n).toUpper := by decide +kernel
  have hexpansions : ∀ expansion ∈ uppercaseExpansions, 128 ≤ expansion.1 := by decide +kernel
  have hnone : uppercaseExpansions.lookup c.toNat = none := by
    refine List.lookup_eq_none_iff.mpr fun expansion hmem => ?_
    have hlarge := hexpansions expansion hmem
    rw [bne_iff_ne]
    omega
  rw [uppercaseChar, hnone, CaseRun.apply_eq_take 1 hbehind hc]
  exact congrArg (fun d => [d])
    (forall_of_lt (P := fun c => CaseRun.apply (uppercaseRuns.take 1) c = c.toUpper) hascii hc)

/-! ### Images of texts -/

/-- What stands for a character in lower case. A capital sigma has two forms. -/
def LowerImage (c : Char) (image : List Char) : Prop :=
  image = lowercaseChar c ∨ c = 'Σ' ∧ image = ['ς']

theorem images_lowercaseAux (before s : List Char) : Images LowerImage s (lowercaseAux before s) := by
  induction s generalizing before with
  | nil => exact .nil
  | cons c rest ih =>
    refine .cons ?_ (ih (c :: before))
    have hsigma : lowercaseChar 'Σ' = ['σ'] := by decide +kernel
    split
    · rename_i hc
      subst hc
      split
      · exact .inr ⟨rfl, rfl⟩
      · exact .inl hsigma.symm
    · exact .inl rfl

theorem images_lowercase (text : String) :
    Images LowerImage text.toList (lowercase text).toList := by
  rw [lowercase, String.toList_ofList]
  exact images_lowercaseAux [] text.toList

/-- A sigma at the end of a word has the other form. -/
example : lowercase "ΑΣ ΣΑΣ." = "ας σας." := by decide +kernel

theorem images_uppercase (text : String) :
    Images (fun c image => image = uppercaseChar c) text.toList (uppercase text).toList := by
  rw [uppercase, String.toList_ofList]
  exact .flatMap uppercaseChar text.toList

/-! ### Characters that stay -/

theorem lowercaseRuns_within :
    ∀ run ∈ lowercaseRuns, run.within caseRanges run.first = true := by
  decide +kernel

theorem uppercaseRuns_within :
    ∀ run ∈ uppercaseRuns, run.within caseRanges run.first = true := by
  decide +kernel

theorem lowerImage_eq_self (hc : isAlphanumeric c = false) (h : LowerImage c image) :
    image = [c] := by
  have hdotted : isAlphanumeric '\u0130' = true := by decide +kernel
  have hsigma : isAlphanumeric 'Σ' = true := by decide +kernel
  rcases h with rfl | ⟨rfl, _⟩
  · unfold lowercaseChar
    split
    · rename_i heq
      rw [heq, hdotted] at hc
      cases hc
    · rw [CaseRun.apply_eq_self lowercaseRuns_within hc]
  · rw [hsigma] at hc
    cases hc

theorem uppercaseChar_eq_self (hc : isAlphanumeric c = false) : uppercaseChar c = [c] := by
  have hexpansions : ∀ expansion ∈ uppercaseExpansions,
      CodePoint.covers caseRanges expansion.1 expansion.1 = true := by decide +kernel
  unfold uppercaseChar
  split
  · rename_i images hlookup
    obtain ⟨before, after, heq, _⟩ := List.lookup_eq_some_iff.mp hlookup
    have hcovers := hexpansions (c.toNat, images) (by rw [heq]; simp)
    have halphanumeric : isAlphanumeric c = true :=
      isAlphanumeric_of_caseRanges
        (CodePoint.inRanges_of_covers hcovers (Nat.le_refl _) (Nat.le_refl _))
    rw [hc] at halphanumeric
    cases halphanumeric
  · rw [CaseRun.apply_eq_self uppercaseRuns_within hc]

/-! ### Characters that last -/

/-- The character is alphanumeric, none of the first 128 and not an exception. -/
def Lasting (exceptions : List Nat) (c : Char) : Prop :=
  isAlphanumeric c = true ∧ 128 ≤ c.toNat ∧ c.toNat ∉ exceptions

instance (exceptions : List Nat) (c : Char) : Decidable (Lasting exceptions c) :=
  inferInstanceAs (Decidable (_ ∧ _))

end Text

/-- The run moves characters that last to characters that last, or it holds none that do. -/
def CaseRun.keepsLasting (exceptions : List Nat) (run : CaseRun) : Bool :=
  run.last < 128 || (run.first == run.last && exceptions.contains run.first) ||
    (128 ≤ run.image && (run.image + run.span < 0xD800 ||
        0xE000 ≤ run.image && run.image + run.span < 0x110000) &&
      run.within Text.caseRanges run.image &&
      exceptions.all fun n => n < run.image || run.image + run.span < n)

namespace Text

variable {exceptions : List Nat} {c : Char} {image : List Char}

theorem lasting_apply {runs : List CaseRun}
    (hruns : ∀ run ∈ runs, run.keepsLasting exceptions = true) (hc : Lasting exceptions c) :
    Lasting exceptions (CaseRun.apply runs c) := by
  obtain ⟨halphanumeric, hlarge, hother⟩ := hc
  rcases CaseRun.apply_cases runs c with hself | ⟨run, hrun, hholds, himage⟩
  · rw [hself]
    exact ⟨halphanumeric, hlarge, hother⟩
  · have hpoint := hholds
    simp only [CaseRun.holds, Bool.and_eq_true, decide_eq_true_eq] at hpoint
    obtain ⟨⟨hfirst, hlast⟩, _⟩ := hpoint
    have hspan : c.toNat - run.first ≤ run.span := by
      unfold CaseRun.span
      omega
    have hkeeps := hruns run hrun
    simp only [CaseRun.keepsLasting, Bool.or_eq_true, Bool.and_eq_true, decide_eq_true_eq,
      beq_iff_eq, List.contains_iff_mem, List.all_eq_true] at hkeeps
    rcases hkeeps with (hsmall | ⟨hsingle, hmem⟩) | ⟨⟨⟨hbeyond, hvalid⟩, hwithin⟩, hapart⟩
    · omega
    · have hsame : c.toNat = run.first := by omega
      rw [hsame] at hother
      exact absurd hmem hother
    · have hscalar : (run.image + (c.toNat - run.first)).isValidChar := by
        unfold Nat.isValidChar
        omega
      have hcode : (CaseRun.apply runs c).toNat = run.image + (c.toNat - run.first) := by
        rw [himage, Char.ofNat, dif_pos hscalar]
        rfl
      refine ⟨isAlphanumeric_of_caseRanges (CaseRun.inRanges_of_within hwithin hholds hcode), by omega,
        fun hmem => ?_⟩
      have hoff := hapart _ hmem
      omega

end Text

/-! ### Characters that only they themselves lead to -/

/-- The run moves nothing to the character. -/
def CaseRun.misses (d : Char) (run : CaseRun) : Bool :=
  d.toNat < run.image || run.image + run.span < d.toNat

namespace Text

variable {exceptions : List Nat} {c d : Char} {image : List Char}

theorem eq_of_apply_eq {runs : List CaseRun} (hruns : ∀ run ∈ runs, run.misses d = true)
    (hd : d.toNat ≠ 0) (h : CaseRun.apply runs c = d) : c = d := by
  rcases CaseRun.apply_cases runs c with hself | ⟨run, hrun, hholds, himage⟩
  · exact hself.symm.trans h
  · have hmisses := hruns run hrun
    rw [CaseRun.misses, Bool.or_eq_true, decide_eq_true_eq, decide_eq_true_eq] at hmisses
    simp only [CaseRun.holds, Bool.and_eq_true, decide_eq_true_eq] at hholds
    unfold CaseRun.span at hmisses
    by_cases hscalar : (run.image + (c.toNat - run.first)).isValidChar
    · rw [h, Char.ofNat, dif_pos hscalar] at himage
      have hcode : d.toNat = run.image + (c.toNat - run.first) := congrArg Char.toNat himage
      omega
    · rw [h, Char.ofNat, dif_neg hscalar] at himage
      exact absurd (congrArg Char.toNat himage) hd

theorem eq_of_mem_lowerImage (hruns : ∀ run ∈ lowercaseRuns, run.misses d = true)
    (hd : d.toNat ≠ 0) (hother : d ∉ ['i', '\u0307', 'ς']) (himage : LowerImage c image)
    (hmem : d ∈ image) : c = d := by
  rcases himage with rfl | ⟨_, rfl⟩
  · unfold lowercaseChar at hmem
    split at hmem
    · refine absurd ?_ hother
      rcases List.mem_cons.mp hmem with rfl | hmem
      · exact List.mem_cons_self
      · rw [List.mem_singleton.mp hmem]
        exact List.mem_cons_of_mem _ List.mem_cons_self
    · exact eq_of_apply_eq hruns hd (List.mem_singleton.mp hmem).symm
  · refine absurd ?_ hother
    rw [List.mem_singleton.mp hmem]
    exact List.mem_cons_of_mem _ (List.mem_cons_of_mem _ List.mem_cons_self)

theorem eq_of_mem_uppercaseChar (hruns : ∀ run ∈ uppercaseRuns, run.misses d = true)
    (hd : d.toNat ≠ 0)
    (hother : ∀ expansion ∈ uppercaseExpansions, d ∉ expansion.2.map Char.ofNat)
    (hmem : d ∈ uppercaseChar c) : c = d := by
  unfold uppercaseChar at hmem
  split at hmem
  · rename_i images hlookup
    obtain ⟨before, after, heq, _⟩ := List.lookup_eq_some_iff.mp hlookup
    exact absurd hmem (hother (c.toNat, images) (by rw [heq]; simp))
  · exact eq_of_apply_eq hruns hd (List.mem_singleton.mp hmem).symm

/-! ### Characters that last, in lower and upper case -/

/-- The exceptions are chosen so that lower case keeps what lasts. -/
structure LowerExceptions (exceptions : List Nat) : Prop where
  dotted : 0x130 ∈ exceptions
  sigma : 0x3C2 ∉ exceptions
  runs : ∀ run ∈ lowercaseRuns, run.keepsLasting exceptions = true

theorem LowerExceptions.exists_lasting (h : LowerExceptions exceptions)
    (hc : Lasting exceptions c) (himage : LowerImage c image) :
    ∃ d ∈ image, Lasting exceptions d := by
  rcases himage with rfl | ⟨rfl, rfl⟩
  · unfold lowercaseChar
    split
    · rename_i heq
      rw [heq] at hc
      exact absurd h.dotted hc.2.2
    · exact ⟨_, List.mem_singleton.mpr rfl, lasting_apply h.runs hc⟩
  · have hfinal : isAlphanumeric 'ς' = true := by decide +kernel
    exact ⟨'ς', List.mem_singleton.mpr rfl, hfinal, by decide, h.sigma⟩

/-- The exceptions are chosen so that upper case keeps what lasts. -/
structure UpperExceptions (exceptions : List Nat) : Prop where
  expansions : ∀ expansion ∈ uppercaseExpansions, expansion.1 ∈ exceptions ∨
    ∃ n ∈ expansion.2, Lasting exceptions (Char.ofNat n)
  runs : ∀ run ∈ uppercaseRuns, run.keepsLasting exceptions = true

theorem UpperExceptions.exists_lasting (h : UpperExceptions exceptions)
    (hc : Lasting exceptions c) : ∃ d ∈ uppercaseChar c, Lasting exceptions d := by
  unfold uppercaseChar
  split
  · rename_i images hlookup
    obtain ⟨before, after, heq, _⟩ := List.lookup_eq_some_iff.mp hlookup
    rcases h.expansions (c.toNat, images) (by rw [heq]; simp) with hmem | ⟨n, hn, hlasting⟩
    · exact absurd hmem hc.2.2
    · exact ⟨Char.ofNat n, List.mem_map_of_mem hn, hlasting⟩
  · exact ⟨_, List.mem_singleton.mpr rfl, lasting_apply h.runs hc⟩

end Text

end SearchFilter
