import SearchFilter.Modifier
import SearchFilter.Proofs.Keywords.Folding
/-!
# Whether keywords survive changes of a text

A text `Survives` if it has a character that lasts, or a keyword once it is folded. Changes of case that respect the table keep that property and its opposite, and so does trimming, because blank characters belong to no word. It remains to compare it with having a keyword.

A text that survives has a keyword. Conversely a keyword may be due to a character that no common word has but whose letters a common word may have, such as the long s or the i without a dot. Such characters are `Faint`, and without them the two properties are the same. Of the two characters that lower case by itself brings to small letters neither is faint. Of all eighteen some are, but capitals never are.
-/

namespace SearchFilter

namespace Keywords

open Text

variable {table : List Letterlike} {R : Char → List Char → Prop} {c : Char}
  {s s' front back part w : List Char} {text : String} {change : TextChange}
  {changes : List TextChange}

/-! ### Surviving -/

def Survives (table : List Letterlike) (s : List Char) : Prop :=
  (∃ c ∈ s, Lasting (codes table) c) ∨ HasKeyword (s.flatMap (fold table))

theorem Respects.exists_lasting_iff (h : Respects table R) (himages : Images R s s') :
    (∃ d ∈ s', Lasting (codes table) d) ↔ ∃ c ∈ s, Lasting (codes table) c := by
  constructor
  · rintro ⟨d, hd, hlasting⟩
    obtain ⟨c, hc, image, himage, hmem⟩ := himages.exists_of_mem_image hd
    refine ⟨c, hc, ?_⟩
    by_contra hpassing
    exact h.passing hpassing himage d hmem hlasting
  · rintro ⟨c, hc, hlasting⟩
    obtain ⟨image, himage, hsub⟩ := himages.exists_of_mem hc
    obtain ⟨d, hd, hlasting'⟩ := h.lasting hlasting himage
    exact ⟨d, hsub d hd, hlasting'⟩

theorem Respects.flatMap_fold (h : Respects table R) (himages : Images R s s')
    (hpassing : ∀ c ∈ s, ¬ Lasting (codes table) c) :
    s'.flatMap (fold table) = s.flatMap (fold table) := by
  induction himages with
  | nil => rfl
  | cons hc _ ih =>
    have hrest := ih fun d hd => hpassing d (List.mem_cons_of_mem _ hd)
    rw [List.flatMap_append, List.flatMap_cons, h.folded (hpassing _ List.mem_cons_self) hc, hrest]

theorem Respects.survives_iff (h : Respects table R) (himages : Images R s s') :
    Survives table s' ↔ Survives table s := by
  unfold Survives
  rw [h.exists_lasting_iff himages]
  by_cases hlasting : ∃ c ∈ s, Lasting (codes table) c
  · exact iff_of_true (.inl hlasting) (.inl hlasting)
  · rw [h.flatMap_fold himages fun c hc hc' => hlasting ⟨c, hc, hc'⟩]

theorem survives_append (hfront : ∀ c ∈ front, isWordChar c = false)
    (hback : ∀ c ∈ back, isWordChar c = false) :
    Survives table (front ++ s ++ back) ↔ Survives table s := by
  have hlasting : ∀ {c}, isWordChar c = false → ¬ Lasting (codes table) c := by
    intro c hc hlasting
    rw [isWordChar_of_isAlphanumeric hlasting.1] at hc
    cases hc
  refine or_congr ⟨?_, ?_⟩ ?_
  · rintro ⟨c, hc, hc'⟩
    rcases List.mem_append.mp hc with hc | hc
    · rcases List.mem_append.mp hc with hc | hc
      · exact absurd hc' (hlasting (hfront c hc))
      · exact ⟨c, hc, hc'⟩
    · exact absurd hc' (hlasting (hback c hc))
  · rintro ⟨c, hc, hc'⟩
    exact ⟨c, List.mem_append_left _ (List.mem_append_right _ hc), hc'⟩
  · rw [List.flatMap_append, List.flatMap_append,
      flatMap_fold_eq_self fun c hc => fold_of_isWordChar (hfront c hc),
      flatMap_fold_eq_self fun c hc => fold_of_isWordChar (hback c hc), hasKeyword_append_right hback,
      hasKeyword_append_left hfront]

/-! ### Words that survive are keywords -/

theorem fold_separator (c : Char) (image : List Char) (hc : (!isWordChar c) = true)
    (himage : image = fold table c) : image = [c] := by
  rw [himage, fold_of_isWordChar ((Bool.not_eq_true' _).mp hc)]

theorem fold_of_isInner (h : isInner c = true) : fold table c = [c] := by
  have hplace : c.toNat < 128 ∧ c.toLower = c := by
    rcases eq_of_isInner h with rfl | rfl
    · decide
    · decide
  obtain ⟨hascii, hsame⟩ := hplace
  rw [fold_of_not_mem (not_mem_codes_of_lt hascii), hsame]

theorem flatMap_fold_of_stop (hlower : Respects table LowerImage) {stop : String}
    (hstop : stop ∈ stopWords) (heq : lowercaseAux [] w = stop.toList) :
    (∀ c ∈ w, ¬ Lasting (codes table) c) ∧ w.flatMap (fold table) = stop.toList := by
  have himages := images_lowercaseAux [] w
  rw [heq] at himages
  have hpassing : ∀ c ∈ w, ¬ Lasting (codes table) c := by
    intro c hc hlasting
    obtain ⟨d, hd, hlasting'⟩ := (hlower.exists_lasting_iff himages).mpr ⟨c, hc, hlasting⟩
    have hascii := (small_of_isLower (isLower_of_mem_stopWords hstop hd)).ascii
    exact not_lasting_of_lt hascii hlasting'
  refine ⟨hpassing, ?_⟩
  rw [← hlower.flatMap_fold himages hpassing]
  exact flatMap_fold_eq_self fun c hc => fold_of_isLower (isLower_of_mem_stopWords hstop hc)

/-- A stretch of small letters between apostrophes and hyphens is its own only part. -/
theorem trimWord_of_isLower (hsmall : ∀ c ∈ w, c.isLower = true)
    (hfront : ∀ c ∈ front, isInner c = true) (hback : ∀ c ∈ back, isInner c = true)
    {piece : List Char} (hpiece : piece ∈ List.splitOnP (fun c => !isWordChar c) (front ++ w ++ back)) :
    trimWord piece = w := by
  have hwhole : List.splitOnP (fun c => !isWordChar c) (front ++ w ++ back) = [front ++ w ++ back] := by
    refine List.splitOnP_eq_singleton fun c hc => ?_
    have hword : isWordChar c = true := by
      rcases List.mem_append.mp hc with hc | hc
      · rcases List.mem_append.mp hc with hc | hc
        · exact isWordChar_of_isInner (hfront c hc)
        · exact (small_of_isLower (hsmall c hc)).word
      · exact isWordChar_of_isInner (hback c hc)
    rw [hword, Bool.not_true]
  rw [hwhole] at hpiece
  rw [List.mem_singleton.mp hpiece]
  by_cases hne : w = []
  · subst hne
    refine trimWord_eq_nil fun c hc => ?_
    rw [List.append_nil] at hc
    exact (List.mem_append.mp hc).elim (hfront c) (hback c)
  · have hinner : ∀ c ∈ w, isInner c = false := fun c hc => (small_of_isLower (hsmall c hc)).notInner
    rw [trimWord_append hne (fun c hc => hinner c (List.mem_of_mem_head? hc))
      (fun c hc => hinner c (List.mem_of_mem_getLast? hc)),
      List.rdropWhile_eq_nil_iff.mpr hback, List.dropWhile_eq_nil_iff.mpr hfront,
      List.nil_append, List.append_nil]

theorem hasKeyword_of_survives (hlower : Respects table LowerImage) (h : Survives table s) :
    HasKeyword s := by
  rcases h with ⟨c, hc, hlasting⟩ | ⟨piece, hpiece, hne, hkept⟩
  · have hword := isWordChar_of_isAlphanumeric hlasting.1
    obtain ⟨part, hpart, hmem⟩ : ∃ part ∈ List.splitOnP (fun c => !isWordChar c) s, c ∈ part :=
      exists_part_of_mem hc (by rw [hword, Bool.not_true])
    have hmem' := mem_trimWord hmem (isInner_eq_false hlasting.2.1)
    refine ⟨part, hpart, List.ne_nil_of_mem hmem', Bool.eq_false_iff.mpr fun hcommon => ?_⟩
    obtain ⟨stop, hstop, heq⟩ := isStopWord_iff.mp hcommon
    exact (flatMap_fold_of_stop hlower hstop heq).1 c hmem' hlasting
  · obtain ⟨part, hpart, image, himage, hpiece⟩ :=
      (splitOnP_images fold_separator (Images.flatMap (fold table) s)).2 piece hpiece
    obtain rfl := himage.eq_flatMap
    obtain ⟨front, back, heq, hfront, hback⟩ := exists_trimWord part
    have hfold : part.flatMap (fold table) =
        front ++ (trimWord part).flatMap (fold table) ++ back := by
      conv_lhs => rw [heq]
      rw [List.flatMap_append, List.flatMap_append,
        flatMap_fold_eq_self fun c hc => fold_of_isInner (hfront c hc),
        flatMap_fold_eq_self fun c hc => fold_of_isInner (hback c hc)]
    rw [hfold] at hpiece
    refine ⟨part, hpart, fun hnil => hne ?_, Bool.eq_false_iff.mpr fun hcommon => ?_⟩
    · rw [hnil, List.flatMap_nil] at hpiece
      exact trimWord_of_isLower (fun c hc => absurd hc List.not_mem_nil) hfront hback hpiece
    · obtain ⟨stop, hstop, hlowercase⟩ := isStopWord_iff.mp hcommon
      rw [(flatMap_fold_of_stop hlower hstop hlowercase).2] at hpiece
      have hstops : ∀ stop ∈ stopWords, isStopWord stop = true := by decide +kernel
      rw [trimWord_of_isLower (fun c hc => isLower_of_mem_stopWords hstop hc) hfront hback hpiece,
        String.ofList_toList, hstops stop hstop] at hkept
      cases hkept

/-! ### Keywords that survive -/

/-- A common word may have the letters of the character, at its end if a mark follows them. -/
def Letterlike.Faint (entry : Letterlike) : Prop :=
  ∃ stop ∈ stopWords, entry.letters <:+: stop.toList ∧
    (entry.mark ≠ none → entry.letters <:+ stop.toList)

instance (entry : Letterlike) : Decidable entry.Faint :=
  inferInstanceAs (Decidable (∃ stop ∈ stopWords, _))

def Clear (table : List Letterlike) (s : List Char) : Prop :=
  ∀ entry ∈ table, entry.Faint → entry.char ∉ s

theorem lowercaseAux_of_lt (h : ∀ c ∈ w, c.toNat < 128) : lowercaseAux [] w = w.map Char.toLower := by
  rw [List.map_eq_flatMap]
  refine (images_lowercaseAux [] w).eq_flatMap_of_forall fun c hc image himage _ => ?_
  rcases himage with rfl | ⟨rfl, _⟩
  · exact lowercaseChar_of_lt (h c hc)
  · exact absurd (h 'Σ' hc) (by decide)

theorem isStopWord_map_toLower (hascii : ∀ c ∈ w, c.toNat < 128)
    (hkept : isStopWord (String.ofList w) = false) :
    isStopWord (String.ofList (w.map Char.toLower)) = false := by
  refine Bool.eq_false_iff.mpr fun hcommon => Bool.eq_false_iff.mp hkept ?_
  obtain ⟨stop, hstop, heq⟩ := isStopWord_iff.mp hcommon
  refine isStopWord_iff.mpr ⟨stop, hstop, ?_⟩
  have hascii' : ∀ c ∈ w.map Char.toLower, c.toNat < 128 := by
    intro c hc
    obtain ⟨d, hd, rfl⟩ := List.mem_map.mp hc
    exact toLower_lt (hascii d hd)
  rw [← heq, lowercaseAux_of_lt hascii, lowercaseAux_of_lt hascii', List.map_map]
  exact List.map_congr_left fun c _ => (Char.toLower_toLower_eq_toLower c).symm

theorem hasKeyword_fold_of_lt (hword : ∀ c ∈ part, isWordChar c = true)
    (hascii : ∀ c ∈ part, c.toNat < 128) (hne : trimWord part ≠ [])
    (hkept : isStopWord (String.ofList (trimWord part)) = false) :
    HasKeyword (part.flatMap (fold table)) := by
  rw [flatMap_fold_of_not_mem fun c hc => not_mem_codes_of_lt (hascii c hc)]
  have hwhole : List.splitOnP (fun c => !isWordChar c) (part.map Char.toLower) =
      [part.map Char.toLower] := by
    refine List.splitOnP_eq_singleton fun c hc => ?_
    obtain ⟨d, hd, rfl⟩ := List.mem_map.mp hc
    rw [isWordChar_toLower (hword d hd), Bool.not_true]
  refine ⟨part.map Char.toLower, by rw [hwhole]; exact List.mem_singleton.mpr rfl, ?_, ?_⟩
  · rw [trimWord_map isInner_toLower]
    exact fun hnil => hne (List.map_eq_nil_iff.mp hnil)
  · rw [trimWord_map isInner_toLower]
    exact isStopWord_map_toLower (fun c hc => hascii c (mem_of_mem_trimWord hc)) hkept

namespace Letterlike

variable {entry : Letterlike}

theorem letters_ne_nil (h : ¬ entry.Faint) : entry.letters ≠ [] := by
  intro hnil
  refine h ⟨"a", List.mem_cons_self, ?_, fun _ => ?_⟩
  · rw [hnil]
    exact List.nil_infix
  · rw [hnil]
    exact List.nil_suffix

theorem isLower_of_mem_letters (h : c ∈ entry.letters) : c.isLower = true :=
  List.all_eq_true.mp entry.small c h

/-- In lower case the letters are still there, so a word with them is common only if they are faint. -/
theorem faint_of_isStopWord
    (hcommon : isStopWord (String.ofList (front ++ entry.letters ++ back)) = true)
    (hend : entry.mark ≠ none → back = []) : entry.Faint := by
  obtain ⟨stop, hstop, heq⟩ := isStopWord_iff.mp hcommon
  have himages := images_lowercaseAux [] (front ++ entry.letters ++ back)
  rw [heq] at himages
  obtain ⟨front', back', hstops, hends⟩ :=
    lowerImages_append_small (fun _ => isLower_of_mem_letters) himages
  refine ⟨stop, hstop, ⟨front', back', hstops.symm⟩, fun hmark => ?_⟩
  rw [hends (hend hmark), List.append_nil] at hstops
  exact ⟨front', hstops.symm⟩

end Letterlike

/-- A part of a folded text in which the letters of a character stand is a keyword, unless the character is faint. A mark ends the part. -/
theorem hasKeyword_fold_of_mem {entry : Letterlike} (hfold : fold table entry.char =
    entry.letters ++ entry.mark.toList) (hentry : ¬ entry.Faint) (hmem : entry.char ∈ part) :
    HasKeyword (part.flatMap (fold table)) := by
  obtain ⟨front, back, rfl⟩ := List.append_of_mem hmem
  have hsmall : ∀ c ∈ entry.letters, Small c :=
    fun c hc => small_of_isLower (Letterlike.isLower_of_mem_letters hc)
  have hne := Letterlike.letters_ne_nil hentry
  have hwhole : (front ++ entry.char :: back).flatMap (fold table) =
      front.flatMap (fold table) ++ entry.letters ++
        (entry.mark.toList ++ back.flatMap (fold table)) := by
    rw [List.flatMap_append, List.flatMap_cons, hfold, List.append_assoc, List.append_assoc]
  obtain ⟨piece, hpiece, before, after, rfl, hafter⟩ :
      ∃ piece ∈ List.splitOnP (fun c => !isWordChar c) (front.flatMap (fold table) ++ entry.letters ++
          (entry.mark.toList ++ back.flatMap (fold table))), ∃ before after,
        piece = before ++ entry.letters ++ after ∧ ∀ c rest,
          entry.mark.toList ++ back.flatMap (fold table) = c :: rest → (!isWordChar c) = true →
            after = [] :=
    exists_part_of_stretch _ _ fun c hc => by rw [(hsmall c hc).word, Bool.not_true]
  have htrim := trimWord_append hne (fun c hc => (hsmall c (List.mem_of_mem_head? hc)).notInner)
    (fun c hc => (hsmall c (List.mem_of_mem_getLast? hc)).notInner) before after
  rw [hwhole]
  refine ⟨_, hpiece, ?_, Bool.eq_false_iff.mpr fun hcommon => hentry ?_⟩
  · rw [htrim]
    simp [hne]
  · rw [htrim] at hcommon
    refine Letterlike.faint_of_isStopWord hcommon fun hmark => ?_
    obtain ⟨m, hm⟩ := Option.ne_none_iff_exists'.mp hmark
    have hmarked := entry.marked
    rw [hm, Option.any_some] at hmarked
    rw [hafter m _ (by rw [hm]; rfl) (by rw [hmarked, Bool.not_false])]
    rfl

theorem survives_of_hasKeyword (hclear : Clear table s) (h : HasKeyword s) : Survives table s := by
  by_cases hlasting : ∃ c ∈ s, Lasting (codes table) c
  · exact .inl hlasting
  · obtain ⟨part, hpart, hne, hkept⟩ := h
    obtain ⟨image, himage, hpieces⟩ :=
      (splitOnP_images fold_separator (Images.flatMap (fold table) s)).1 part hpart
    obtain rfl := himage.eq_flatMap
    have hword : ∀ c ∈ part, isWordChar c = true := fun c hc =>
      (Bool.not_eq_false' _).mp (not_separates_of_mem_splitOnP hpart c hc)
    suffices hfold : HasKeyword (part.flatMap (fold table)) by
      obtain ⟨piece, hpiece, hkeyword⟩ := hfold
      exact .inr ⟨piece, hpieces piece hpiece, hkeyword⟩
    by_cases hentries : ∃ c ∈ part, c.toNat ∈ codes table
    · obtain ⟨c, hc, hcode⟩ := hentries
      obtain ⟨entry, hentry, rfl, hfold⟩ := exists_fold hcode
      have hentry' : ¬ entry.Faint := fun hfaint =>
        hclear entry hentry hfaint (mem_of_mem_splitOnP hpart hc)
      exact hasKeyword_fold_of_mem hfold hentry' hc
    · refine hasKeyword_fold_of_lt hword (fun c hc => ?_) hne hkept
      by_contra hlarge
      have hlarge : 128 ≤ c.toNat := Nat.le_of_not_lt hlarge
      have halphanumeric : isAlphanumeric c = true := by
        have hc' := hword c hc
        rwa [isWordChar, isInner_eq_false hlarge, Bool.or_false] at hc'
      exact hlasting ⟨c, mem_of_mem_splitOnP hpart hc, halphanumeric, hlarge,
        fun hcode => hentries ⟨c, hc, hcode⟩⟩

end Keywords

end SearchFilter
