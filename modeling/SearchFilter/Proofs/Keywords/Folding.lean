import Mathlib
import SearchFilter.Proofs.Keywords.Words
/-!
# What is left of a text under every change of case

Changing the case of a text may change its words. Some characters become one of the letters from a to z, others a letter and an accent that belongs to no word, and ligatures become two or three letters. `Letterlike` characters are those for which that can happen. A table of them gives the letters that each one comes to, and `fold` replaces them by these and all capitals by small letters.

A change of case respects a table if characters that last become characters that last, and all others become characters with the same folded form. Lower case does so for the two characters that it brings to letters from a to z itself, lower and upper case do so for all eighteen.
-/

namespace SearchFilter

namespace Keywords

open Text

variable {c : Char} {image s s' : List Char}

/-! ### Small letters -/

structure Small (c : Char) : Prop where
  ascii : c.toNat < 128
  word : isWordChar c = true
  notInner : isInner c = false
  lowercase : lowercaseChar c = [c]
  toLower : c.toLower = c

theorem small_of_isLower (h : c.isLower = true) : Small c := by
  have hletters : ∀ n < 123, (Char.ofNat n).isLower = true → isWordChar (Char.ofNat n) = true ∧
      isInner (Char.ofNat n) = false ∧ (Char.ofNat n).toLower = Char.ofNat n := by decide +kernel
  have hbound : c.toNat < 123 :=
    Nat.lt_succ_of_le (show c.toNat ≤ 'z'.toNat from of_decide_eq_true (Bool.and_eq_true_iff.mp h).2)
  obtain ⟨hword, hinner, hsame⟩ := forall_of_lt (P := fun c => c.isLower = true →
    isWordChar c = true ∧ isInner c = false ∧ c.toLower = c) hletters hbound h
  have hascii : c.toNat < 128 := by omega
  exact ⟨hascii, hword, hinner, by rw [lowercaseChar_of_lt hascii, hsame], hsame⟩

theorem Small.lowerImage (h : Small c) (himage : LowerImage c image) : image = [c] := by
  rcases himage with rfl | ⟨rfl, _⟩
  · exact h.lowercase
  · exact absurd h.ascii (by decide)

theorem isLower_of_mem_stopWords {stop : String} (hstop : stop ∈ stopWords) (hc : c ∈ stop.toList) :
    c.isLower = true := by
  have hall : ∀ stop ∈ stopWords, stop.toList.all Char.isLower = true := by decide
  exact List.all_eq_true.mp (hall stop hstop) c hc

theorem lowerImages_append_small {front stretch back : List Char}
    (hsmall : ∀ c ∈ stretch, c.isLower = true)
    (h : Images LowerImage (front ++ stretch ++ back) s') :
    ∃ front' back', s' = front' ++ stretch ++ back' ∧ (back = [] → back' = []) := by
  obtain ⟨start', back', rfl, hstart, hback⟩ := h.append_left
  obtain ⟨front', stretch', rfl, _, hstretch⟩ := hstart.append_left
  have hsame : stretch' = stretch.flatMap fun c => [c] :=
    hstretch.eq_flatMap_of_forall fun c hc image himage _ =>
      (small_of_isLower (hsmall c hc)).lowerImage himage
  rw [List.flatMap_singleton'] at hsame
  refine ⟨front', back', by rw [hsame], ?_⟩
  rintro rfl
  cases hback
  rfl

theorem toLower_eq_or (c : Char) :
    c.toLower = c ∨ isWordChar c = true ∧ isInner c = false ∧ c.toLower.isLower = true := by
  have hcapitals : ∀ n < 91, 65 ≤ n → isWordChar (Char.ofNat n) = true ∧
      isInner (Char.ofNat n) = false ∧ (Char.ofNat n).toLower.isLower = true := by decide +kernel
  by_cases hcapital : 'A'.toNat ≤ c.toNat ∧ c.toNat ≤ 'Z'.toNat
  · have hletter := hcapitals c.toNat (Nat.lt_succ_of_le hcapital.2) hcapital.1
    rw [Char.ofNat_toNat] at hletter
    exact .inr hletter
  · exact .inl (dif_neg hcapital)

theorem isInner_toLower (c : Char) : isInner c.toLower = isInner c := by
  rcases toLower_eq_or c with hsame | ⟨_, hinner, hsmall⟩
  · rw [hsame]
  · rw [hinner, (small_of_isLower hsmall).notInner]

theorem isWordChar_toLower (h : isWordChar c = true) : isWordChar c.toLower = true := by
  rcases toLower_eq_or c with hsame | ⟨_, _, hsmall⟩
  · rwa [hsame]
  · exact (small_of_isLower hsmall).word

theorem toLower_lt (h : c.toNat < 128) : c.toLower.toNat < 128 := by
  rcases toLower_eq_or c with hsame | ⟨_, _, hsmall⟩
  · rwa [hsame]
  · exact (small_of_isLower hsmall).ascii

/-! ### Letterlike characters -/

/-- A character that some change of case brings to small letters, with a mark behind them for some. -/
structure Letterlike where
  char : Char
  letters : List Char
  mark : Option Char := none
  alphanumeric : isAlphanumeric char = true := by decide +kernel
  large : 128 ≤ char.toNat := by decide
  small : letters.all Char.isLower = true := by decide
  marked : mark.any isWordChar = false := by decide +kernel

variable {table : List Letterlike}

def codes (table : List Letterlike) : List Nat := table.map fun entry => entry.char.toNat

/-- The letters of a letterlike character, or the character as a small letter. -/
def fold (table : List Letterlike) (c : Char) : List Char :=
  match table.find? fun entry => entry.char == c with
  | some entry => entry.letters ++ entry.mark.toList
  | none => [c.toLower]

theorem exists_of_mem_codes (h : c.toNat ∈ codes table) : ∃ entry ∈ table, entry.char = c := by
  obtain ⟨entry, hentry, hcode⟩ := List.mem_map.mp h
  exact ⟨entry, hentry, Char.toNat_inj.mp hcode⟩

theorem exists_fold (h : c.toNat ∈ codes table) :
    ∃ entry ∈ table, entry.char = c ∧ fold table c = entry.letters ++ entry.mark.toList := by
  obtain ⟨entry, hentry, hchar⟩ := exists_of_mem_codes h
  have hfound : (table.find? fun entry => entry.char == c).isSome = true :=
    List.find?_isSome.mpr ⟨entry, hentry, beq_iff_eq.mpr hchar⟩
  obtain ⟨first, hfirst⟩ := Option.isSome_iff_exists.mp hfound
  refine ⟨first, List.mem_of_find?_eq_some hfirst, by simpa using List.find?_some hfirst, ?_⟩
  rw [fold, hfirst]

theorem fold_of_not_mem (h : c.toNat ∉ codes table) : fold table c = [c.toLower] := by
  have hnone : table.find? (fun entry => entry.char == c) = none := by
    refine List.find?_eq_none.mpr fun entry hentry hsame => h ?_
    rw [← beq_iff_eq.mp hsame]
    exact List.mem_map_of_mem hentry
  rw [fold, hnone]

theorem not_mem_codes_of_lt (h : c.toNat < 128) : c.toNat ∉ codes table := by
  intro hmem
  obtain ⟨entry, _, rfl⟩ := exists_of_mem_codes hmem
  exact absurd entry.large (by omega)

theorem fold_of_isLower (h : c.isLower = true) : fold table c = [c] := by
  rw [fold_of_not_mem (not_mem_codes_of_lt (small_of_isLower h).ascii), (small_of_isLower h).toLower]

theorem toLower_of_isWordChar (h : isWordChar c = false) : c.toLower = c := by
  rcases toLower_eq_or c with hsame | ⟨hword, _, _⟩
  · exact hsame
  · rw [h] at hword
    cases hword

theorem fold_of_isWordChar (h : isWordChar c = false) : fold table c = [c] := by
  rw [fold_of_not_mem, toLower_of_isWordChar h]
  intro hmem
  obtain ⟨entry, _, rfl⟩ := exists_of_mem_codes hmem
  rw [isWordChar_of_isAlphanumeric entry.alphanumeric] at h
  cases h

theorem flatMap_fold_eq_self (h : ∀ c ∈ s, fold table c = [c]) : s.flatMap (fold table) = s := by
  rw [List.flatMap_congr h, List.flatMap_singleton']

theorem flatMap_fold_of_not_mem (h : ∀ c ∈ s, c.toNat ∉ codes table) :
    s.flatMap (fold table) = s.map Char.toLower := by
  rw [List.flatMap_congr fun c hc => fold_of_not_mem (h c hc)]
  exact List.map_eq_flatMap.symm

/-! ### Changes that respect a table -/

/-- Characters that last have images with such a character. The others have images with the same folded form. -/
structure Respects (table : List Letterlike) (R : Char → List Char → Prop) : Prop where
  lasting : ∀ {c image}, Lasting (codes table) c → R c image → ∃ d ∈ image, Lasting (codes table) d
  passing : ∀ {c image}, ¬ Lasting (codes table) c → R c image →
    ∀ d ∈ image, ¬ Lasting (codes table) d
  folded : ∀ {c image}, ¬ Lasting (codes table) c → R c image →
    image.flatMap (fold table) = fold table c

/-- A character that does not last has an image as the table wants it. -/
def Agrees (table : List Letterlike) (change : Char → List Char) (c : Char) : Prop :=
  ((change c).any fun d => decide (Lasting (codes table) d)) = false ∧
    (change c).flatMap (fold table) = fold table c

instance (table : List Letterlike) (change : Char → List Char) (c : Char) :
    Decidable (Agrees table change c) :=
  inferInstanceAs (Decidable (_ ∧ _))

variable {change : Char → List Char} {R : Char → List Char → Prop}

theorem Agrees.not_lasting (h : Agrees table change c) :
    ∀ d ∈ change c, ¬ Lasting (codes table) d := by
  intro d hd hlasting
  exact List.any_eq_false.mp h.1 d hd (decide_eq_true hlasting)

theorem not_lasting_of_lt (h : c.toNat < 128) : ¬ Lasting (codes table) c :=
  fun hlasting => absurd hlasting.2.1 (by omega)

theorem agrees_of_lt {d : Char} (himage : change c = [d]) (hc : c.toNat < 128)
    (hd : d.toNat < 128) (hsame : d.toLower = c.toLower) : Agrees table change c := by
  unfold Agrees
  rw [himage, List.flatMap_singleton, fold_of_not_mem (not_mem_codes_of_lt hd), hsame,
    fold_of_not_mem (not_mem_codes_of_lt hc), List.any_cons, List.any_nil, Bool.or_false,
    decide_eq_false_iff_not]
  exact ⟨not_lasting_of_lt hd, rfl⟩

/-- It is enough to look at the first 128 characters and at those of the table. -/
theorem respects_of_agrees
    (hlasting : ∀ {c image}, Lasting (codes table) c → R c image →
      ∃ d ∈ image, Lasting (codes table) d)
    (himage : ∀ {c image}, ¬ Lasting (codes table) c → R c image → image = change c)
    (hplain : ∀ {c}, isAlphanumeric c = false → change c = [c])
    (hascii : ∀ {c}, c.toNat < 128 → Agrees table change c)
    (hentries : ∀ entry ∈ table, Agrees table change entry.char) : Respects table R := by
  have hagrees : ∀ {c}, ¬ Lasting (codes table) c → Agrees table change c := by
    intro c hc
    by_cases hsmall : c.toNat < 128
    · exact hascii hsmall
    · by_cases hmem : c.toNat ∈ codes table
      · obtain ⟨entry, hentry, rfl⟩ := exists_of_mem_codes hmem
        exact hentries entry hentry
      · have hplace : isAlphanumeric c = false := by
          by_contra halphanumeric
          exact hc ⟨Bool.not_eq_false _ ▸ halphanumeric, Nat.le_of_not_lt hsmall, hmem⟩
        unfold Agrees
        rw [hplain hplace, List.flatMap_singleton, List.any_cons, List.any_nil, Bool.or_false,
          decide_eq_false_iff_not]
        exact ⟨hc, rfl⟩
  refine ⟨hlasting, fun hc hR => ?_, fun hc hR => ?_⟩
  · rw [himage hc hR]
    exact (hagrees hc).not_lasting
  · rw [himage hc hR]
    exact (hagrees hc).2

theorem respects_lower (hexceptions : LowerExceptions (codes table))
    (hentries : ∀ entry ∈ table, Agrees table lowercaseChar entry.char)
    (hsigma : Lasting (codes table) 'Σ') : Respects table LowerImage := by
  refine respects_of_agrees hexceptions.exists_lasting ?_
    (fun hc => lowerImage_eq_self hc (.inl rfl)) (fun {c} hc => ?_) hentries
  · rintro c image hc (rfl | ⟨rfl, _⟩)
    · rfl
    · exact absurd hsigma hc
  · exact agrees_of_lt (lowercaseChar_of_lt hc) hc (toLower_lt hc)
      (Char.toLower_toLower_eq_toLower c)

theorem respects_upper (hexceptions : UpperExceptions (codes table))
    (hentries : ∀ entry ∈ table, Agrees table uppercaseChar entry.char) :
    Respects table fun c image => image = uppercaseChar c := by
  have hletters : ∀ n < 128, (Char.ofNat n).toUpper.toNat < 128 ∧
      (Char.ofNat n).toUpper.toLower = (Char.ofNat n).toLower := by decide +kernel
  refine respects_of_agrees ?_ (fun _ himage => himage) uppercaseChar_eq_self (fun {c} hc => ?_)
    hentries
  · rintro c image hc rfl
    exact hexceptions.exists_lasting hc
  · obtain ⟨hbound, hsame⟩ := forall_of_lt
      (P := fun c => c.toUpper.toNat < 128 ∧ c.toUpper.toLower = c.toLower) hletters hc
    exact agrees_of_lt (uppercaseChar_of_lt hc) hc hbound hsame

/-! ### The two tables -/

/-- What lower case brings to small letters. -/
def lowerTable : List Letterlike :=
  [{ char := '\u0130', letters := ['i'], mark := some '\u0307' },
    { char := '\u212A', letters := ['k'] }]

/-- What lower case, upper case or both bring to small letters. -/
def fullTable : List Letterlike :=
  [{ char := '\u00DF', letters := ['s', 's'] },
    { char := '\u0130', letters := ['i'], mark := some '\u0307' },
    { char := '\u0131', letters := ['i'] },
    { char := '\u017F', letters := ['s'] },
    { char := '\u01F0', letters := ['j'], mark := some '\u030C' },
    { char := '\u1E96', letters := ['h'], mark := some '\u0331' },
    { char := '\u1E97', letters := ['t'], mark := some '\u0308' },
    { char := '\u1E98', letters := ['w'], mark := some '\u030A' },
    { char := '\u1E99', letters := ['y'], mark := some '\u030A' },
    { char := '\u1E9E', letters := ['s', 's'] },
    { char := '\u212A', letters := ['k'] },
    { char := '\uFB00', letters := ['f', 'f'] },
    { char := '\uFB01', letters := ['f', 'i'] },
    { char := '\uFB02', letters := ['f', 'l'] },
    { char := '\uFB03', letters := ['f', 'f', 'i'] },
    { char := '\uFB04', letters := ['f', 'f', 'l'] },
    { char := '\uFB05', letters := ['s', 't'] },
    { char := '\uFB06', letters := ['s', 't'] }]

theorem lowerTable_respects_lower : Respects lowerTable LowerImage := by
  refine respects_lower ⟨?_, ?_, ?_⟩ ?_ ?_ <;> decide +kernel

theorem fullTable_respects_lower : Respects fullTable LowerImage := by
  refine respects_lower ⟨?_, ?_, ?_⟩ ?_ ?_ <;> decide +kernel

theorem fullTable_respects_upper : Respects fullTable fun c image => image = uppercaseChar c := by
  refine respects_upper ⟨?_, ?_⟩ ?_ <;> decide +kernel

end Keywords

end SearchFilter
