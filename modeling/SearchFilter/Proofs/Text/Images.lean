import Mathlib.Data.List.Infix
import SearchFilter.Proofs.Text.Parts
/-!
# Texts that are replaced character by character

`Images R s s'` says that `s'` is `s` with every character replaced by characters that `R` allows for it. Where separators are replaced by themselves, the parts of `s'` are those of the images of the parts of `s`. So a question about the parts of a changed text is one about each part alone.
-/

namespace SearchFilter

namespace Text

/-- The second text is the first one with every character replaced by one of its images. -/
inductive Images (R : Char → List Char → Prop) : List Char → List Char → Prop
  | nil : Images R [] []
  | cons {c : Char} {image s s' : List Char} (hc : R c image) (hs : Images R s s') :
      Images R (c :: s) (image ++ s')

variable {R : Char → List Char → Prop} {separates : Char → Bool} {s s' part piece : List Char}

namespace Images

theorem flatMap (f : Char → List Char) (s : List Char) :
    Images (fun c image => image = f c) s (s.flatMap f) := by
  induction s with
  | nil => exact .nil
  | cons c rest ih => exact .cons rfl ih

theorem eq_flatMap {f : Char → List Char} (h : Images (fun c image => image = f c) s s') :
    s' = s.flatMap f := by
  induction h with
  | nil => rfl
  | cons hc _ ih => rw [hc, ih, List.flatMap_cons]

theorem append_left {front back : List Char} (h : Images R (front ++ back) s') :
    ∃ front' back', s' = front' ++ back' ∧ Images R front front' ∧ Images R back back' := by
  induction front generalizing s' with
  | nil => exact ⟨[], s', rfl, .nil, h⟩
  | cons c front ih =>
    cases h with
    | @cons _ image _ _ hc hs =>
      obtain ⟨front', back', rfl, hfront, hback⟩ := ih hs
      exact ⟨image ++ front', back', (List.append_assoc ..).symm, .cons hc hfront, hback⟩

theorem exists_of_mem (h : Images R s s') {c : Char} (hc : c ∈ s) :
    ∃ image, R c image ∧ ∀ d ∈ image, d ∈ s' := by
  obtain ⟨front, back, rfl⟩ := List.append_of_mem hc
  obtain ⟨front', back', rfl, _, hback⟩ := h.append_left
  cases hback with
  | @cons _ image _ rest hc _ => exact ⟨image, hc, fun d hd => by simp [hd]⟩

theorem exists_of_mem_image (h : Images R s s') {d : Char} (hd : d ∈ s') :
    ∃ c ∈ s, ∃ image, R c image ∧ d ∈ image := by
  induction h with
  | nil => exact absurd hd List.not_mem_nil
  | @cons c image _ _ hc _ ih =>
    rcases List.mem_append.mp hd with hd | hd
    · exact ⟨c, List.mem_cons_self, image, hc, hd⟩
    · obtain ⟨c', hc', himage⟩ := ih hd
      exact ⟨c', List.mem_cons_of_mem _ hc', himage⟩

theorem eq_flatMap_of_forall (h : Images R s s') {f : Char → List Char}
    (hf : ∀ c ∈ s, ∀ image, R c image → (∀ d ∈ image, d ∈ s') → image = f c) :
    s' = s.flatMap f := by
  induction h with
  | nil => rfl
  | @cons c image rest rest' hc hs ih =>
    have hfirst : image = f c :=
      hf c List.mem_cons_self image hc fun d hd => List.mem_append_left _ hd
    have hrest : rest' = rest.flatMap f := ih fun c' hc' image' himage' hsub =>
      hf c' (List.mem_cons_of_mem _ hc') image' himage' fun d hd =>
        List.mem_append_right _ (hsub d hd)
    rw [List.flatMap_cons, ← hfirst, ← hrest]

end Images

/-! ### Parts -/

/-- The image of a text in which separators stay has the parts of the images of its parts. -/
theorem splitOnP_images (hseparates : ∀ c image, separates c = true → R c image → image = [c])
    (h : Images R s s') :
    (∀ part ∈ s.splitOnP separates, ∃ image, Images R part image ∧
      ∀ piece ∈ image.splitOnP separates, piece ∈ s'.splitOnP separates) ∧
    ∀ piece ∈ s'.splitOnP separates, ∃ part ∈ s.splitOnP separates, ∃ image,
      Images R part image ∧ piece ∈ image.splitOnP separates := by
  induction s using partsInduction separates generalizing s' with
  | last s hs =>
    rw [List.splitOnP_eq_singleton hs]
    simp only [List.mem_singleton, forall_eq, exists_eq_left]
    exact ⟨⟨s', h, fun piece hpiece => hpiece⟩, fun piece hpiece => ⟨s', h, hpiece⟩⟩
  | next front c back hfront hc ih =>
    obtain ⟨front', rest', rfl, himage, hrest⟩ := h.append_left
    cases hrest with
    | @cons _ image _ back' hcut hback =>
      obtain rfl := hseparates c image hc hcut
      obtain ⟨hparts, hpieces⟩ := ih hback
      rw [List.splitOnP_append_cons_of_forall_mem hfront c hc, List.singleton_append,
        List.splitOnP_append_cons _ _ hc]
      constructor
      · intro part hpart
        rcases List.mem_cons.mp hpart with rfl | hpart
        · exact ⟨front', himage, fun piece hpiece => List.mem_append_left _ hpiece⟩
        · obtain ⟨image, himage, hsub⟩ := hparts part hpart
          exact ⟨image, himage, fun piece hpiece => List.mem_append_right _ (hsub piece hpiece)⟩
      · intro piece hpiece
        rcases List.mem_append.mp hpiece with hpiece | hpiece
        · exact ⟨front, List.mem_cons_self, front', himage, hpiece⟩
        · obtain ⟨part, hpart, himage⟩ := hpieces piece hpiece
          exact ⟨part, List.mem_cons_of_mem _ hpart, himage⟩

/-- A stretch without separators lies in one part, and at its end if a separator follows. -/
theorem exists_part_of_stretch (front : List Char) {stretch : List Char} (back : List Char)
    (hplain : ∀ c ∈ stretch, separates c = false) :
    ∃ part ∈ (front ++ stretch ++ back).splitOnP separates, ∃ before after,
      part = before ++ stretch ++ after ∧ ∀ c rest, back = c :: rest → separates c = true →
        after = [] := by
  induction front using partsInduction separates with
  | last front hfront =>
    have hopen : ∀ c ∈ front ++ stretch, separates c = false :=
      List.forall_mem_append.mpr ⟨hfront, hplain⟩
    induction back using partsInduction separates with
    | last back hback =>
      refine ⟨front ++ stretch ++ back, ?_, front, back, rfl, ?_⟩
      · rw [List.splitOnP_eq_singleton (List.forall_mem_append.mpr ⟨hopen, hback⟩)]
        exact List.mem_singleton.mpr rfl
      · rintro c rest rfl hc
        rw [hback c List.mem_cons_self] at hc
        cases hc
    | next before c rest hbefore hc _ =>
      refine ⟨front ++ stretch ++ before, ?_, front, before, rfl, ?_⟩
      · rw [← List.append_assoc, List.splitOnP_append_cons_of_forall_mem
          (List.forall_mem_append.mpr ⟨hopen, hbefore⟩) c hc]
        exact List.mem_cons_self
      · intro d rest' heq hd
        cases before with
        | nil => rfl
        | cons first others =>
          cases heq
          rw [hbefore d List.mem_cons_self] at hd
          cases hd
  | next before c rest hbefore hc ih =>
    obtain ⟨part, hpart, hstretch⟩ := ih
    refine ⟨part, ?_, hstretch⟩
    rw [List.append_assoc, List.append_assoc, List.cons_append, ← List.append_assoc rest,
      List.splitOnP_append_cons_of_forall_mem hbefore c hc]
    exact List.mem_cons_of_mem _ hpart

end Text

end SearchFilter
