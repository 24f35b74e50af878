import Mathlib.Data.List.Nodup
import SearchFilter.Proofs.Vocabulary.Enumerated
import SearchFilter.Proofs.Vocabulary.Readings
/-!
# One name read at two columns

With the standard registry, two columns of one entity can read the same name in few ways. The name of the longer column is that of the shorter one with something behind it, and the reading of the shorter column has to continue over this end. It cannot end in the suffix, as no suffix has the beginning of a token in it. It cannot end between two tokens either: then the longer column with the suffix for equality would be an enumerated name that is also read with modifiers, and such a vocabulary is not built. So it ends inside a token, and what remains of the token has to begin a token again. This leaves `char_length`, which ends with `length`, and `day_of_month`, which ends with `month`.
-/

namespace SearchFilter

namespace Vocabulary

structure SplitToken where
  token : String
  /-- What stands in front of the other token. -/
  start : String
  next : String
deriving DecidableEq

def SplitToken.charLength : SplitToken := ⟨"char_length", "char", "length"⟩

def SplitToken.dayOfMonth : SplitToken := ⟨"day_of_month", "day_of", "month"⟩

def splitTokens : List SplitToken := [.charLength, .dayOfMonth]

theorem exists_splitToken : ∀ token ∈ Modifier.standard.flatMap Modifier.tokens,
    ∀ parts ∈ divisions (segmentsOf token), ∀ next ∈ Modifier.standard.flatMap Modifier.tokens,
      parts.2.head? = (segmentsOf next).head? →
        parts.2 = segmentsOf next ∧ ∃ split ∈ splitTokens,
          split.token = token ∧ segmentsOf split.start = parts.1 ∧ split.next = next := by
  decide +kernel

/-! ### Types of modifiers -/

variable {type result : SemanticType} {tokens : List String} {chain : List Modifier}
  {modifier : Modifier} {token : String}

theorem returnType_of_mem_splitTokens : ∀ split ∈ splitTokens, ∀ type ∈ SemanticType.all,
    ∀ modifier ∈ modifierFor? Modifier.standard type split.token, ∀ type' ∈ SemanticType.all,
      ∀ modifier' ∈ modifierFor? Modifier.standard type' split.next,
        type = type' ∧ modifier.returnType type = modifier'.returnType type' := by
  decide +kernel

theorem modifierFor?_name (h : modifierFor? Modifier.standard type token = some modifier) :
    modifierFor? Modifier.standard type modifier.name = some modifier := by
  have hnames : ∀ modifier ∈ Modifier.standard,
      Modifier.resolve? Modifier.standard modifier.name = some modifier := by decide +kernel
  obtain ⟨hmem, _, happlies⟩ := mem_tokens_of_modifierFor? h
  rw [modifierFor?, hnames modifier hmem, Option.filter_some, if_pos happlies]

theorem Reads.length_eq {modifiers : List Modifier} (h : Reads modifiers type tokens chain result) :
    tokens.length = chain.length := by
  induction h with
  | nil => rfl
  | cons _ _ ih => rw [List.length_cons, List.length_cons, ih]

/-- The names of modifiers stand for them as their aliases do. -/
theorem Reads.names (h : Reads Modifier.standard type tokens chain result) :
    Reads Modifier.standard type (chain.map (·.name)) chain result := by
  induction h with
  | nil => exact .nil
  | cons hmodifier _ ih => exact .cons (modifierFor?_name hmodifier) ih

theorem Reads.eq_nil_of_temporal (h : Reads Modifier.standard type tokens chain result)
    (hresult : result = .temporal) : tokens = [] ∧ type = .temporal := by
  have hnever : ∀ modifier ∈ Modifier.standard, ∀ type ∈ SemanticType.all,
      modifier.appliesTo type = true → modifier.returnType type ≠ .temporal := by decide +kernel
  induction h with
  | nil => exact ⟨rfl, hresult⟩
  | @cons type _ _ modifier _ _ hmodifier _ ih =>
    obtain ⟨hmem, _, happlies⟩ := mem_tokens_of_modifierFor? hmodifier
    exact absurd (ih hresult).2 (hnever modifier hmem type (SemanticType.mem_all type) happlies)

theorem resolveSuffix?_name {kind : Kind} (hkind : kind ∈ Kind.standard)
    (happlies : kind.appliesTo type = true) :
    Kind.resolveSuffix? Kind.standard kind.name type = some kind := by
  have hnames : ∀ kind ∈ Kind.standard, ∀ type ∈ SemanticType.all, kind.appliesTo type = true →
      Kind.resolveSuffix? Kind.standard kind.name type = some kind := by decide +kernel
  exact hnames kind hkind type (SemanticType.mem_all type) happlies

/-! ### Where the longer column ends -/

/-- The longer column ends inside a token of the other reading, which goes on like this one. -/
structure Reading.Crossing (longer shorter : Column) (long short : Reading) where
  before : List String
  split : SplitToken
  after : List String
  mem : split ∈ splitTokens
  name : longer.name = "_".intercalate (shorter.name :: (before ++ [split.start]))
  shortTokens : short.tokens = before ++ split.token :: after
  longTokens : long.tokens = split.next :: after
  suffix : long.suffix = short.suffix

variable {longer shorter : Column} {long short : Reading}

/-- Unless it ends inside a token, the longer column is the shorter one with tokens. -/
theorem Reading.crossing_or (hlong : long.Fits Registry.standard longer)
    (hshort : short.Fits Registry.standard shorter)
    (hname : long.spelling longer.name = short.spelling shorter.name) {extra : List String}
    (hextra : segmentsOf longer.name = segmentsOf shorter.name ++ extra) (hne : extra ≠ []) :
    Nonempty (Crossing longer shorter long short) ∨ ∃ before after, before ≠ [] ∧
      short.tokens = before ++ after ∧ longer.name = "_".intercalate (shorter.name :: before) := by
  have hsegments := congrArg segmentsOf hname
  rw [segmentsOf_spelling, segmentsOf_spelling, hextra, List.append_assoc,
    List.append_cancel_left_eq] at hsegments
  obtain ⟨next, rest, htokens⟩ := List.exists_cons_of_ne_nil hlong.nonempty
  have hnext := hlong.reads.mem_tokens next (by rw [htokens]; exact List.mem_cons_self)
  obtain ⟨first, others, hfirst⟩ := List.exists_cons_of_ne_nil (segmentsOf_ne_nil next)
  have hjoin : ∀ {names : List String}, extra = names.flatMap segmentsOf →
      longer.name = "_".intercalate (shorter.name :: names) := by
    intro names hnames
    apply segmentsOf_injective
    rw [hextra, segmentsOf_join (List.cons_ne_nil _ _), List.flatMap_cons, hnames]
  rcases cut_flatMap_append hsegments.symm with
    ⟨before, after, hshortTokens, hfront, _⟩ |
    ⟨before, token, after, left, right, hshortTokens, htoken, hleft, hright, hfront, hback⟩ |
    ⟨left, _, hsuffix, _⟩
  · -- between two tokens
    refine .inr ⟨before, after, ?_, hshortTokens, hjoin hfront⟩
    rintro rfl
    exact hne hfront
  · -- inside a token
    have hmem := hshort.reads.mem_tokens token (by rw [hshortTokens]; simp)
    rw [htokens, List.flatMap_cons, List.append_assoc] at hback
    have hhead : right.head? = (segmentsOf next).head? := by
      have hheads := congrArg List.head? hback
      rw [List.head?_append_of_ne_nil _ (segmentsOf_ne_nil next),
        List.head?_append_of_ne_nil _ hright] at hheads
      exact hheads.symm
    obtain ⟨hrest, split, hsplit, rfl, hstart, rfl⟩ := exists_splitToken token hmem
      (left, right) (mem_divisions.mpr ⟨htoken, hleft, hright⟩) next hnext hhead
    change right = _ at hrest
    rw [hrest, List.append_cancel_left_eq] at hback
    obtain ⟨hafter, hsuffix⟩ := tokens_unique Registry.readable_standard
      (fun other hother => hlong.reads.mem_tokens other
        (by rw [htokens]; exact List.mem_cons_of_mem _ hother))
      (fun other hother => hshort.reads.mem_tokens other (by rw [hshortTokens]; simp [hother]))
      hlong.suffix_mem hshort.suffix_mem hback
    rw [hafter] at htokens
    refine .inl ⟨before, split, after, hsplit, hjoin ?_, hshortTokens, htokens, hsuffix⟩
    rw [List.flatMap_append, List.flatMap_singleton, hstart, hfront]
  · -- inside the suffix
    refine absurd ?_ (Registry.readable_standard.apart next hnext short.suffix hshort.suffix_mem
      first ?_)
    · rw [hfirst]
      rfl
    · rw [hsuffix, htokens, List.flatMap_cons, hfirst]
      simp

/-! ### Readings in a vocabulary -/

variable {source : SchemaSource} {quote : String → String} {table : String}
  {columns : List Column} {relationships : List Relationship} {vocabulary : Vocabulary}
  {column other : ColumnRef} {reading reading' : Reading}

theorem resolveModified?_isSome {columns : List ColumnRef} (hcolumn : column ∈ columns)
    (hfits : reading.Fits Registry.standard column.column) :
    (resolveModified? Registry.standard columns
      (reading.spelling column.column.name)).isSome = true :=
  List.findSome?_isSome_iff.mpr
    ⟨column, hcolumn, readModified?_isSome hfits (hfits.preferred Registry.readable_standard)⟩

theorem equals_appliesTo (type : SemanticType) : Kind.equals.appliesTo type = true := by
  cases type <;> decide

theorem Assembled.name_ne_join
    (h : vocabulary.Assembled Registry.standard quote table columns relationships)
    (hcolumn : column ∈ vocabulary.columns) (hother : other ∈ vocabulary.columns)
    (hreads : Reads Modifier.standard other.column.type tokens chain result) (hne : tokens ≠ []) :
    column.column.name ≠ "_".intercalate (other.column.name :: tokens) := by
  intro hname
  -- the name for equality is enumerated for the one column and read at the other
  have hfits : Reading.Fits Registry.standard other.column
      ⟨tokens, Kind.equals.name, chain, Kind.equals, result⟩ :=
    ⟨hne, hreads, resolveSuffix?_name List.mem_cons_self (equals_appliesTo _)⟩
  have hspelling : Reading.spelling ⟨tokens, Kind.equals.name, chain, Kind.equals, result⟩
      other.column.name = Kind.equals.canonicalName column.column.name := by
    apply segmentsOf_injective
    rw [Reading.segmentsOf_spelling, Kind.canonicalName, segmentsOf_append, hname,
      segmentsOf_join (List.cons_ne_nil _ _), List.flatMap_cons, List.append_assoc]
  have hfree := h.lookup_eq_none (resolveModified?_isSome hother hfits)
  have hkey := h.lookup_eq_some_iff.mpr (And.intro ⟨column, hcolumn, List.mem_map.mpr
    ⟨Kind.equals, List.mem_filter.mpr
      ⟨List.mem_cons_self, equals_appliesTo _⟩, rfl⟩⟩ List.mem_cons_self)
  rw [hspelling] at hfree
  cases hfree.symm.trans hkey

theorem Assembled.nodup_columns
    (h : vocabulary.Assembled Registry.standard quote table columns relationships) :
    vocabulary.columns.Nodup :=
  (h.nodup_names List.mem_cons_self equals_appliesTo).of_map

theorem Assembled.column_eq
    (h : vocabulary.Assembled Registry.standard quote table columns relationships)
    (hcolumn : column ∈ vocabulary.columns) (hother : other ∈ vocabulary.columns)
    (hname : column.column.name = other.column.name) : column = other :=
  List.inj_on_of_nodup_map (h.nodup_names List.mem_cons_self equals_appliesTo) hcolumn hother
    hname

theorem Assembled.crossing
    (h : vocabulary.Assembled Registry.standard quote table columns relationships)
    (hcolumn : column ∈ vocabulary.columns) (hother : other ∈ vocabulary.columns)
    (hfits : reading.Fits Registry.standard column.column)
    (hfits' : reading'.Fits Registry.standard other.column)
    (hname : reading.spelling column.column.name = reading'.spelling other.column.name)
    {extra : List String}
    (hextra : segmentsOf column.column.name = segmentsOf other.column.name ++ extra)
    (hne : extra ≠ []) :
    Nonempty (Reading.Crossing column.column other.column reading reading') := by
  rcases Reading.crossing_or hfits hfits' hname hextra hne with
    hcrossing | ⟨before, after, hbefore, htokens, hjoin⟩
  · exact hcrossing
  · have hreads := hfits'.reads
    rw [htokens] at hreads
    obtain ⟨_, _, _, _, hfirst, _⟩ := hreads.of_append
    exact absurd hjoin (h.name_ne_join hcolumn hother hfirst hbefore)

/-- Two columns that read one name are the same, or one ends inside a token of the other. -/
theorem Assembled.eq_or_crossing
    (h : vocabulary.Assembled Registry.standard quote table columns relationships)
    (hcolumn : column ∈ vocabulary.columns) (hother : other ∈ vocabulary.columns)
    (hfits : reading.Fits Registry.standard column.column)
    (hfits' : reading'.Fits Registry.standard other.column)
    (hname : reading.spelling column.column.name = reading'.spelling other.column.name) :
    column = other ∨ Nonempty (Reading.Crossing column.column other.column reading reading') ∨
      Nonempty (Reading.Crossing other.column column.column reading' reading) := by
  have hsegments := congrArg segmentsOf hname
  rw [Reading.segmentsOf_spelling, Reading.segmentsOf_spelling] at hsegments
  by_cases hsame : column = other
  · exact .inl hsame
  have hextra : ∀ {first second : ColumnRef} {extra : List String}, first ∈ vocabulary.columns →
      second ∈ vocabulary.columns → first ≠ second →
      segmentsOf first.column.name = segmentsOf second.column.name ++ extra → extra ≠ [] := by
    rintro first second extra hfirst hsecond hne hextra rfl
    rw [List.append_nil] at hextra
    exact hne (h.column_eq hfirst hsecond (segmentsOf_injective hextra))
  rcases List.append_eq_append_iff.mp hsegments with ⟨extra, hlonger, _⟩ | ⟨extra, hlonger, _⟩
  · exact .inr (.inr (h.crossing hother hcolumn hfits' hfits hname.symm hlonger
      (hextra hother hcolumn (Ne.symm hsame) hlonger)))
  · exact .inr (.inl (h.crossing hcolumn hother hfits hfits' hname hlonger
      (hextra hcolumn hother hsame hlonger)))

end Vocabulary

end SearchFilter
