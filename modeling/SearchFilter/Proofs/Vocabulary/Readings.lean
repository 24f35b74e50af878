import SearchFilter.Proofs.Vocabulary.Chains
/-!
# Readings of names

A reading divides a name into a column, tokens of modifiers that fit the types, and the suffix of a kind that fits the type they lead to. Looking a name up goes through the divisions in an order of its own. Here the order is taken away: a column reads a name exactly if there is a reading whose tokens are preferred to all other groupings of their segments. For a registry whose tokens can be told apart every reading is of this sort, and there is at most one.

A registry is readable if no token begins another token and no suffix has the first segment of a token in it. Then the tokens of a name are found from left to right without looking ahead, and where no token begins the suffix does. The standard registry is of this sort.
-/

namespace SearchFilter

open Vocabulary in
/-- No token begins another token, and no suffix has the first segment of a token in it. -/
structure Registry.Readable (registry : Registry) : Prop where
  prefixFree : ∀ first ∈ registry.modifiers.flatMap Modifier.tokens,
    ∀ second ∈ registry.modifiers.flatMap Modifier.tokens,
      segmentsOf first <+: segmentsOf second → first = second
  apart : ∀ token ∈ registry.modifiers.flatMap Modifier.tokens,
    ∀ suffix ∈ registry.kinds.flatMap Kind.suffixes,
      ∀ part ∈ segmentsOf suffix, (segmentsOf token).head? ≠ some part

theorem Registry.readable_standard : Registry.standard.Readable where
  prefixFree := by decide +kernel
  apart := by decide +kernel

namespace Vocabulary

variable {registry : Registry} {modifiers chain : List Modifier} {type result : SemanticType}
  {token pending : String} {tokens parts : List String}

/-! ### Telling tokens apart -/

theorem tokens_unique (hreadable : registry.Readable) {tokens' : List String}
    {suffix suffix' : String}
    (htokens : ∀ token ∈ tokens, token ∈ registry.modifiers.flatMap Modifier.tokens)
    (htokens' : ∀ token ∈ tokens', token ∈ registry.modifiers.flatMap Modifier.tokens)
    (hsuffix : suffix ∈ registry.kinds.flatMap Kind.suffixes)
    (hsuffix' : suffix' ∈ registry.kinds.flatMap Kind.suffixes)
    (h : tokens.flatMap segmentsOf ++ segmentsOf suffix =
      tokens'.flatMap segmentsOf ++ segmentsOf suffix') :
    tokens = tokens' ∧ suffix = suffix' := by
  -- a suffix never begins like a token
  have hclash : ∀ {token suffix : String} {rest : List String},
      token ∈ registry.modifiers.flatMap Modifier.tokens →
      suffix ∈ registry.kinds.flatMap Kind.suffixes →
      segmentsOf suffix ≠ segmentsOf token ++ rest := by
    intro token suffix rest htoken hsuffix heq
    obtain ⟨first, others, hfirst⟩ := List.exists_cons_of_ne_nil (segmentsOf_ne_nil token)
    rw [hfirst, List.cons_append] at heq
    refine hreadable.apart token htoken suffix hsuffix first ?_ ?_
    · rw [heq]
      exact List.mem_cons_self
    · rw [hfirst]
      rfl
  induction tokens generalizing tokens' with
  | nil =>
    cases tokens' with
    | nil => exact ⟨rfl, segmentsOf_injective h⟩
    | cons token tokens' =>
      rw [List.flatMap_nil, List.nil_append, List.flatMap_cons, List.append_assoc] at h
      exact absurd h (hclash (htokens' token List.mem_cons_self) hsuffix)
  | cons token tokens ih =>
    obtain ⟨htoken, hrest⟩ := List.forall_mem_cons.mp htokens
    cases tokens' with
    | nil =>
      rw [List.flatMap_nil, List.nil_append, List.flatMap_cons, List.append_assoc] at h
      exact absurd h.symm (hclash htoken hsuffix')
    | cons token' tokens' =>
      obtain ⟨htoken', hrest'⟩ := List.forall_mem_cons.mp htokens'
      rw [List.flatMap_cons, List.flatMap_cons, List.append_assoc, List.append_assoc] at h
      have hsame : token = token' := by
        rcases List.append_eq_append_iff.mp h with ⟨rest, hsegments, _⟩ | ⟨rest, hsegments, _⟩
        · exact hreadable.prefixFree token htoken token' htoken' ⟨rest, hsegments.symm⟩
        · exact (hreadable.prefixFree token' htoken' token htoken ⟨rest, hsegments.symm⟩).symm
      subst hsame
      rw [List.append_cancel_left_eq] at h
      obtain ⟨rfl, hsame⟩ := ih hrest hrest' h
      exact ⟨rfl, hsame⟩

/-! ### Readings -/

structure Reading where
  tokens : List String
  suffix : String
  modifiers : List Modifier
  kind : Kind
  /-- The type that the modifiers lead to. -/
  type : SemanticType

namespace Reading

def key (reading : Reading) (column : ColumnRef) : ConditionKey :=
  ConditionKey.ofParts column.column column.text reading.modifiers reading.kind reading.type

def spelling (reading : Reading) (column : String) : String :=
  "_".intercalate (column :: (reading.tokens ++ [reading.suffix]))

structure Fits (registry : Registry) (column : Column) (reading : Reading) : Prop where
  nonempty : reading.tokens ≠ []
  reads : Reads registry.modifiers column.type reading.tokens reading.modifiers reading.type
  kind : Kind.resolveSuffix? registry.kinds reading.suffix reading.type = some reading.kind

variable {column : Column} {reading other : Reading}

theorem segmentsOf_spelling (reading : Reading) (column : String) :
    segmentsOf (reading.spelling column) = segmentsOf column ++
      (reading.tokens.flatMap segmentsOf ++ segmentsOf reading.suffix) := by
  rw [spelling, segmentsOf_join (List.cons_ne_nil _ _), List.flatMap_cons, List.flatMap_append,
    List.flatMap_singleton]

theorem Fits.mem_kinds (h : reading.Fits registry column) : reading.kind ∈ registry.kinds :=
  List.mem_of_find?_eq_some h.kind

theorem Fits.mem_suffixes (h : reading.Fits registry column) :
    reading.suffix ∈ reading.kind.suffixes := by
  have hfound := List.find?_some h.kind
  rw [Bool.and_eq_true, List.contains_iff_mem] at hfound
  exact hfound.1

theorem Fits.suffix_mem (h : reading.Fits registry column) :
    reading.suffix ∈ registry.kinds.flatMap Kind.suffixes :=
  List.mem_flatMap.mpr ⟨reading.kind, h.mem_kinds, h.mem_suffixes⟩

theorem Fits.applies (h : reading.Fits registry column) :
    reading.kind.appliesTo reading.type = true := by
  have hfound := List.find?_some h.kind
  rw [Bool.and_eq_true] at hfound
  exact hfound.2

/-- Where tokens can be told apart, segments have no other grouping. -/
theorem Fits.preferred (hreadable : registry.Readable) (h : reading.Fits registry column) :
    Preferred registry.modifiers column.type reading.tokens := by
  intro tokens' chain' result' hreads hsame
  obtain ⟨heq, _⟩ := tokens_unique hreadable hreads.mem_tokens h.reads.mem_tokens h.suffix_mem
    h.suffix_mem (by rw [hsame])
  exact .inl heq

theorem Fits.unique (hreadable : registry.Readable) (h : reading.Fits registry column)
    (h' : other.Fits registry column)
    (hname : reading.spelling column.name = other.spelling column.name) : reading = other := by
  have hsegments := congrArg segmentsOf hname
  rw [segmentsOf_spelling, segmentsOf_spelling, List.append_cancel_left_eq] at hsegments
  obtain ⟨htokens, hsuffix⟩ := tokens_unique hreadable h.reads.mem_tokens h'.reads.mem_tokens
    h.suffix_mem h'.suffix_mem hsegments
  obtain ⟨_, _, _, _, _⟩ := reading
  obtain ⟨_, _, _, _, _⟩ := other
  cases htokens
  cases hsuffix
  obtain ⟨hchain, htype⟩ := h.reads.unique h'.reads
  cases hchain
  cases htype
  cases h.kind.symm.trans h'.kind
  rfl

end Reading

theorem mem_divisions {α : Type} {l left right : List α} :
    (left, right) ∈ divisions l ↔ l = left ++ right ∧ left ≠ [] ∧ right ≠ [] := by
  induction l generalizing left with
  | nil =>
    simp only [divisions, List.not_mem_nil, false_iff, not_and]
    intro h hleft
    exact absurd (List.append_eq_nil_iff.mp h.symm).1 hleft
  | cons a rest ih =>
    cases rest with
    | nil =>
      simp only [divisions, List.not_mem_nil, false_iff, not_and]
      intro h hleft
      rcases List.append_eq_singleton_iff.mp h.symm with ⟨rfl, _⟩ | ⟨_, rfl⟩
      · exact absurd rfl hleft
      · exact fun hright => hright rfl
    | cons b rest =>
      have hdivisions : divisions (a :: b :: rest) =
        (divisions (b :: rest)).map (fun division => (a :: division.1, division.2)) ++
          [([a], b :: rest)] := rfl
      rw [hdivisions]
      simp only [List.mem_append, List.mem_map, List.mem_singleton, Prod.mk.injEq, Prod.exists]
      constructor
      · rintro (⟨left', right', hmem, rfl, rfl⟩ | ⟨rfl, rfl⟩)
        · obtain ⟨hrest, _, hright⟩ := ih.mp hmem
          exact ⟨by rw [hrest]; rfl, List.cons_ne_nil _ _, hright⟩
        · exact ⟨rfl, List.cons_ne_nil _ _, List.cons_ne_nil _ _⟩
      · rintro ⟨h, hleft, hright⟩
        obtain ⟨first, left', rfl⟩ := List.exists_cons_of_ne_nil hleft
        rw [List.cons_append, List.cons.injEq] at h
        obtain ⟨rfl, h⟩ := h
        by_cases hempty : left' = []
        · exact .inr ⟨by rw [hempty], by rw [h, hempty, List.nil_append]⟩
        · exact .inl ⟨left', right, ih.mpr ⟨h, hempty, hright⟩, rfl, rfl⟩

/-- What a column reads a name as fits the name, and the search prefers its tokens. -/
theorem exists_reading_of_readModified? {name : String} {column : ColumnRef} {key : ConditionKey}
    (h : readModified? registry name column = some key) :
    ∃ reading : Reading, reading.Fits registry column.column ∧
      reading.spelling column.column.name = name ∧ key = reading.key column ∧
      Preferred registry.modifiers column.column.type reading.tokens := by
  unfold readModified? at h
  split at h
  · cases h
  · rename_i rest hrest
    rw [List.isPrefixOf?_eq_some_iff_append_eq, List.append_assoc, List.singleton_append] at hrest
    obtain ⟨⟨left, right⟩, hmem, hread⟩ := List.exists_of_findSome?_eq_some h
    change readDivision? registry column left right = some key at hread
    obtain ⟨hdivision, hleft, hright⟩ := mem_divisions.mp hmem
    have hplain : ∀ part ∈ left ++ right, segmentsOf part = [part] := by
      rw [← hdivision]
      exact fun part hpart => segmentsOf_of_mem hpart
    rw [List.forall_mem_append] at hplain
    unfold readDivision? at hread
    split at hread
    · cases hread
    · rename_i modifiers type hchain
      obtain ⟨kind, hkind, rfl⟩ := Option.map_eq_some_iff.mp hread
      obtain ⟨tokens, hreads, hsegments, hpreferred⟩ :=
        (chain?_eq_some_iff hplain.1).mp hchain
      refine ⟨⟨tokens, "_".intercalate right, modifiers, kind, type⟩, ⟨?_, hreads, hkind⟩, ?_, rfl,
        hpreferred⟩
      · rintro rfl
        exact hleft hsegments.symm
      · apply segmentsOf_injective
        rw [Reading.segmentsOf_spelling, hsegments, segmentsOf_join_segments hplain.2 hright,
          ← hdivision, segmentsOf, segmentsOf, ← hrest, segments_append]

/-- A column reads every name that there is a reading of with preferred tokens. -/
theorem readModified?_isSome {column : ColumnRef} {reading : Reading}
    (h : reading.Fits registry column.column)
    (hpreferred : Preferred registry.modifiers column.column.type reading.tokens) :
    (readModified? registry (reading.spelling column.column.name) column).isSome = true := by
  have hne : reading.tokens ++ [reading.suffix] ≠ [] := by simp
  have hname : (reading.spelling column.column.name).toList =
      (column.column.name.toList ++ ['_']) ++
        ("_".intercalate (reading.tokens ++ [reading.suffix])).toList := by
    rw [Reading.spelling, String.intercalate_cons_of_ne_nil hne]
    simp
  have hsegments : segments ("_".intercalate (reading.tokens ++ [reading.suffix])).toList =
      reading.tokens.flatMap segmentsOf ++ segmentsOf reading.suffix := by
    rw [← segmentsOf, segmentsOf_join hne, List.flatMap_append, List.flatMap_singleton]
  have hchain := (chain?_eq_some_iff fun _ => segmentsOf_of_mem_flatMap).mpr
    ⟨reading.tokens, h.reads, rfl, hpreferred⟩
  unfold readModified?
  rw [List.isPrefixOf?_eq_some_iff_append_eq.mpr hname.symm]
  refine List.findSome?_isSome_iff.mpr
    ⟨(reading.tokens.flatMap segmentsOf, segmentsOf reading.suffix), ?_, ?_⟩
  · refine mem_divisions.mpr ⟨hsegments, ?_, segmentsOf_ne_nil _⟩
    exact fun hnil => h.nonempty (eq_nil_of_flatMap_segmentsOf hnil)
  · simp only [readDivision?, hchain, join_segmentsOf, h.kind, Option.map_some, Option.isSome_some]

theorem readModified?_eq_some_iff (hreadable : registry.Readable) {name : String}
    {column : ColumnRef} {key : ConditionKey} :
    readModified? registry name column = some key ↔
      ∃ reading : Reading, reading.Fits registry column.column ∧
        reading.spelling column.column.name = name ∧ key = reading.key column := by
  constructor
  · intro h
    obtain ⟨reading, hfits, hname, hkey, _⟩ := exists_reading_of_readModified? h
    exact ⟨reading, hfits, hname, hkey⟩
  · rintro ⟨reading, hfits, rfl, rfl⟩
    obtain ⟨key, hkey⟩ := Option.isSome_iff_exists.mp
      (readModified?_isSome hfits (hfits.preferred hreadable))
    obtain ⟨other, hfits', hname, rfl, _⟩ := exists_reading_of_readModified? hkey
    rw [hkey, hfits'.unique hreadable hfits hname]

/-- The column reads the name in this way, and no column before it reads the name. -/
structure ReadFirst (registry : Registry) (columns : List ColumnRef) (name : String)
    (column : ColumnRef) (reading : Reading) : Prop where
  fits : reading.Fits registry column.column
  spelling : reading.spelling column.column.name = name
  first : ∃ before after, columns = before ++ column :: after ∧ ∀ other ∈ before,
    ∀ reading : Reading, reading.Fits registry other.column →
      reading.spelling other.column.name ≠ name

theorem exists_readFirst (hreadable : registry.Readable) {columns : List ColumnRef} {name : String}
    {key : ConditionKey} (h : resolveModified? registry columns name = some key) :
    ∃ column reading, ReadFirst registry columns name column reading ∧ key = reading.key column := by
  obtain ⟨before, column, after, rfl, hread, hbefore⟩ := List.findSome?_eq_some_iff.mp h
  obtain ⟨reading, hfits, hname, rfl, _⟩ := exists_reading_of_readModified? hread
  refine ⟨column, reading, ⟨hfits, hname, before, after, rfl, ?_⟩, rfl⟩
  rintro other hother reading' hfits' rfl
  have hsome := readModified?_isSome hfits' (hfits'.preferred hreadable)
  rw [hbefore other hother] at hsome
  cases hsome

variable {columns : List ColumnRef} {name : String} {column other : ColumnRef}
  {reading reading' : Reading}

theorem ReadFirst.mem (h : ReadFirst registry columns name column reading) : column ∈ columns := by
  obtain ⟨before, after, rfl, _⟩ := h.first
  exact List.mem_append_right before List.mem_cons_self

theorem ReadFirst.resolveModified?_eq (hreadable : registry.Readable)
    (h : ReadFirst registry columns name column reading) :
    resolveModified? registry columns name = some (reading.key column) := by
  obtain ⟨before, after, rfl, hbefore⟩ := h.first
  have hread : readModified? registry name column = some (reading.key column) :=
    (readModified?_eq_some_iff hreadable).mpr ⟨reading, h.fits, h.spelling, rfl⟩
  refine List.findSome?_eq_some_iff.mpr ⟨before, column, after, rfl, hread, ?_⟩
  intro earlier hmem
  rw [Option.eq_none_iff_forall_ne_some]
  intro key hkey
  obtain ⟨other, hfits, hname, _⟩ := (readModified?_eq_some_iff hreadable).mp hkey
  exact hbefore earlier hmem other hfits hname

/-- All other columns that read the name stand behind the first one. -/
theorem ReadFirst.sublist (h : ReadFirst registry columns name column reading)
    (hother : other ∈ columns) (hfits : reading'.Fits registry other.column)
    (hname : reading'.spelling other.column.name = name) (hne : other ≠ column) :
    [column, other].Sublist columns := by
  obtain ⟨before, after, rfl, hbefore⟩ := h.first
  rcases List.mem_append.mp hother with hmem | hmem
  · exact absurd hname (hbefore other hmem reading' hfits)
  · refine List.Sublist.trans (List.cons_sublist_cons.mpr (List.singleton_sublist.mpr ?_))
      (List.sublist_append_right before (column :: after))
    exact (List.mem_cons.mp hmem).resolve_left hne

end Vocabulary

end SearchFilter
