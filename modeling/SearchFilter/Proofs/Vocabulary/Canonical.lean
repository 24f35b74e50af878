import SearchFilter.Proofs.Vocabulary.Crossing
import SearchFilter.Schema.Reading
/-!
# Canonical names

The canonical name of a condition is read like any other name, so it leads back to its condition only if no column before that of the condition reads it, too. With the standard registry such a column cuts the name inside a token. Where no column cuts a later one, canonical names are fixed points of resolution; where none is named like a later one with `_day_of` behind it, they tell conditions apart.

Aliases make the difference between the two: `length` is the alias of `char_length`, so `title_length_equals` has a canonical name that a column `title_char` reads as well, but no canonical name has `length` as a token.
-/

namespace SearchFilter

open Vocabulary in
/-- The name of the first column is that of the second with the beginning of a name behind it that modifiers go by there, and what is left of that name is a token for the first column. -/
inductive Column.Cuts (first second : Column) : Prop
  | char {chain : List Modifier}
      (hchain : Reads Modifier.standard second.type (chain.map (·.name)) chain .text)
      (htype : first.type = .text)
      (hname : first.name = ConditionKey.modifiedName second.name chain ++ "_char")
  | dayOf (htype : first.type = .temporal) (htype' : second.type = .temporal)
      (hname : first.name = second.name ++ "_day_of")

namespace Vocabulary

/-! ### Canonical readings -/

namespace Reading

def canonical (reading : Reading) : Reading :=
  { reading with tokens := reading.modifiers.map (·.name), suffix := reading.kind.name }

theorem modifiedName_eq (column : String) (modifiers : List Modifier) :
    ConditionKey.modifiedName column modifiers =
      "_".intercalate (column :: modifiers.map (·.name)) := by
  induction modifiers generalizing column with
  | nil => rfl
  | cons modifier rest ih =>
    have hstep : ConditionKey.modifiedName column (modifier :: rest) =
      ConditionKey.modifiedName (column ++ "_" ++ modifier.name) rest := rfl
    apply segmentsOf_injective
    rw [hstep, ih, segmentsOf_join (List.cons_ne_nil _ _), segmentsOf_join (List.cons_ne_nil _ _),
      List.flatMap_cons, segmentsOf_append, List.map_cons, List.flatMap_cons, List.flatMap_cons,
      List.append_assoc]

theorem name_ofParts (column : Column) (columnRef : String) (modifiers : List Modifier)
    (kind : Kind) (type : SemanticType) :
    (ConditionKey.ofParts column columnRef modifiers kind type).name =
      "_".intercalate (column.name :: (modifiers.map (·.name) ++ [kind.name])) := by
  change ConditionKey.modifiedName column.name modifiers ++ "_" ++ kind.name = _
  apply segmentsOf_injective
  rw [segmentsOf_append, modifiedName_eq, segmentsOf_join (List.cons_ne_nil _ _),
    segmentsOf_join (List.cons_ne_nil _ _), ← List.cons_append, List.flatMap_append,
    List.flatMap_singleton]

theorem spelling_canonical (reading : Reading) (column : ColumnRef) :
    reading.canonical.spelling column.column.name = (reading.key column).name :=
  (name_ofParts column.column column.text reading.modifiers reading.kind reading.type).symm

variable {longer shorter : Column} {long short reading : Reading}

theorem Fits.canonical (h : reading.Fits Registry.standard longer) :
    reading.canonical.Fits Registry.standard longer where
  nonempty hempty := by
    have hlength := h.reads.length_eq
    rw [List.map_eq_nil_iff.mp hempty] at hlength
    exact h.nonempty (List.eq_nil_of_length_eq_zero hlength)
  reads := h.reads.names
  kind := resolveSuffix?_name h.mem_kinds h.applies

/-! ### What crossing readings have in common -/

/-- Readings of which one crosses into the other agree from the common token on. -/
theorem Crossing.inversion (crossing : Crossing longer shorter long short)
    (hlong : long.Fits Registry.standard longer) (hshort : short.Fits Registry.standard shorter) :
    ∃ chain modifier modifier' rest, short.modifiers = chain ++ modifier :: rest ∧
      long.modifiers = modifier' :: rest ∧
      Reads Modifier.standard shorter.type crossing.before chain longer.type ∧
      modifierFor? Modifier.standard longer.type crossing.split.token = some modifier ∧
      modifierFor? Modifier.standard longer.type crossing.split.next = some modifier' ∧
      long.type = short.type := by
  have hreads := hshort.reads
  rw [crossing.shortTokens] at hreads
  obtain ⟨chain, middle, second, hchain, hbefore, hreads⟩ := hreads.of_append
  have hreads' := hlong.reads
  rw [crossing.longTokens] at hreads'
  generalize long.modifiers = modifiers' at hreads' ⊢
  cases hreads with
  | @cons _ _ _ modifier _ rest hmodifier htail =>
    cases hreads' with
    | @cons _ _ _ modifier' _ rest' hmodifier' htail' =>
      obtain ⟨rfl, hreturn⟩ := returnType_of_mem_splitTokens _ crossing.mem middle
        (SemanticType.mem_all _) modifier hmodifier longer.type (SemanticType.mem_all _) modifier'
        hmodifier'
      rw [hreturn] at htail
      obtain ⟨rfl, htype⟩ := htail.unique htail'
      exact ⟨chain, modifier, modifier', rest, hchain, rfl, hbefore, hmodifier, hmodifier',
        htype.symm⟩

theorem Crossing.ne (crossing : Crossing longer shorter long short) :
    longer.name ≠ shorter.name := by
  intro hname
  have hsegments := congrArg (fun name => (segmentsOf name).length) crossing.name
  have hpos := List.length_pos_of_ne_nil (segmentsOf_ne_nil crossing.split.start)
  simp only [hname, segmentsOf_join (List.cons_ne_nil _ _), List.flatMap_cons,
    List.flatMap_append, List.flatMap_nil, List.length_append, List.length_nil] at hsegments
  omega

theorem Crossing.type_eq (crossing : Crossing longer shorter long short)
    (hlong : long.Fits Registry.standard longer) (hshort : short.Fits Registry.standard shorter) :
    long.type = short.type := by
  obtain ⟨_, _, _, _, _, _, _, _, _, htype⟩ := crossing.inversion hlong hshort
  exact htype

theorem Crossing.kind_eq (crossing : Crossing longer shorter long short)
    (hlong : long.Fits Registry.standard longer) (hshort : short.Fits Registry.standard shorter) :
    long.kind = short.kind := by
  have hkind := hlong.kind
  rw [crossing.suffix, crossing.type_eq hlong hshort, hshort.kind] at hkind
  exact (Option.some.inj hkind).symm

theorem split_cases : ∀ split ∈ splitTokens, ∀ type ∈ SemanticType.all,
    ∀ modifier ∈ modifierFor? Modifier.standard type split.token,
      split = .charLength ∧ type = .text ∨ split = .dayOfMonth ∧ type = .temporal := by
  decide +kernel

theorem Crossing.cuts (crossing : Crossing longer shorter long short.canonical)
    (hlong : long.Fits Registry.standard longer) (hshort : short.Fits Registry.standard shorter) :
    longer.Cuts shorter := by
  obtain ⟨chain, modifier, modifier', rest, hmodifiers, _, hreads, hmodifier, _⟩ :=
    crossing.inversion hlong hshort.canonical
  -- the tokens in front are the names of the modifiers in front
  have hbefore : crossing.before = chain.map (·.name) := by
    have hnames : short.canonical.modifiers.map (·.name) = short.canonical.tokens := rfl
    rw [hmodifiers, crossing.shortTokens, List.map_append] at hnames
    exact (List.append_inj_left hnames (by rw [List.length_map, hreads.length_eq])).symm
  have hjoin : longer.name =
      ConditionKey.modifiedName shorter.name chain ++ "_" ++ crossing.split.start := by
    apply segmentsOf_injective
    rw [crossing.name, segmentsOf_append, modifiedName_eq, hbefore,
      segmentsOf_join (List.cons_ne_nil _ _), segmentsOf_join (List.cons_ne_nil _ _),
      ← List.cons_append, List.flatMap_append, List.flatMap_singleton]
  rw [hbefore] at hreads
  rcases split_cases _ crossing.mem longer.type (SemanticType.mem_all _) modifier hmodifier with
    ⟨hsplit, htype⟩ | ⟨hsplit, htype⟩
  · rw [htype] at hreads
    rw [hsplit, String.append_assoc] at hjoin
    exact .char hreads htype hjoin
  · obtain ⟨hempty, htype'⟩ := hreads.eq_nil_of_temporal htype
    rw [hsplit, List.map_eq_nil_iff.mp hempty, String.append_assoc] at hjoin
    exact .dayOf htype htype' hjoin

/-- A canonical name whose column crosses into another reading begins with `month`, and the other column reads all names that do. -/
theorem Crossing.dayOf (crossing : Crossing longer shorter long.canonical short)
    (hlong : long.Fits Registry.standard longer) (hshort : short.Fits Registry.standard shorter) :
    longer.type = .temporal ∧ shorter.type = .temporal ∧
      longer.name = shorter.name ++ "_day_of" ∧ ∃ again : Reading,
        again.Fits Registry.standard shorter ∧
          again.spelling shorter.name = long.spelling longer.name := by
  have hnames : ∀ modifier ∈ Modifier.standard, modifier.name ≠ "length" ∧
      (modifier.name = "month" → modifier.tokens = ["month"]) := by decide +kernel
  obtain ⟨chain, modifier, modifier', rest, _, hmodifiers, hreads, hmodifier, hmodifier', _⟩ :=
    crossing.inversion hlong.canonical hshort
  have hnext : modifier'.name = crossing.split.next := by
    have htokens : long.canonical.modifiers.map (·.name) = long.canonical.tokens := rfl
    rw [hmodifiers, crossing.longTokens, List.map_cons, List.cons.injEq] at htokens
    exact htokens.1
  obtain ⟨hlength, hmonth⟩ := hnames modifier' (mem_of_modifierFor? hmodifier')
  rcases split_cases _ crossing.mem longer.type (SemanticType.mem_all _) modifier hmodifier with
    ⟨hsplit, _⟩ | ⟨hsplit, htype⟩
  · rw [hsplit] at hnext
    exact absurd hnext hlength
  · rw [hsplit] at hnext hmodifier
    obtain ⟨hempty, htype'⟩ := hreads.eq_nil_of_temporal htype
    have hname : longer.name = shorter.name ++ "_" ++ "day_of" := by
      rw [crossing.name, hempty, hsplit]
      rfl
    refine ⟨htype, htype', by rw [hname, String.append_assoc]; rfl, ?_⟩
    -- whatever token stands for the modifier in the name itself, it is `month`
    have hreads' : Reads Modifier.standard longer.type long.tokens (modifier' :: rest) long.type :=
      hmodifiers ▸ hlong.reads
    generalize htokens : long.tokens = tokens at hreads'
    cases hreads' with
    | @cons _ _ token _ tokens _ hfirst htail =>
      obtain ⟨hmem, htoken, _⟩ := mem_tokens_of_modifierFor? hfirst
      rw [hmonth hnext, List.mem_singleton] at htoken
      obtain ⟨_, hreturn⟩ := returnType_of_mem_splitTokens _ crossing.mem longer.type
        (SemanticType.mem_all _) modifier (by rw [hsplit]; exact hmodifier) longer.type
        (SemanticType.mem_all _) modifier' hmodifier'
      refine ⟨⟨"day_of_month" :: tokens, long.suffix, modifier :: rest, long.kind, long.type⟩,
        ⟨List.cons_ne_nil _ _, ?_, hlong.kind⟩, ?_⟩
      · rw [htype', ← htype]
        exact .cons hmodifier (hreturn ▸ htail)
      · apply segmentsOf_injective
        have hday : segmentsOf "day_of_month" = segmentsOf "day_of" ++ segmentsOf "month" := by
          decide +kernel
        rw [segmentsOf_spelling, segmentsOf_spelling, htokens, htoken, hname, segmentsOf_append,
          List.flatMap_cons, List.flatMap_cons, hday]
        simp only [List.append_assoc]

end Reading

/-! ### Resolution -/

variable {source : SchemaSource} {quote : String → String} {table entity name : String}
  {columns : List Column} {relationships : List Relationship} {vocabulary : Vocabulary}
  {key : ConditionKey}

theorem Assembled.lookup_name
    (h : vocabulary.Assembled Registry.standard quote table columns relationships)
    (hlookup : vocabulary.names.lookup name = some key) :
    vocabulary.names.lookup key.name = some key := by
  obtain ⟨⟨column, hcolumn, hkey⟩, _⟩ := h.lookup_eq_some_iff.mp hlookup
  refine h.lookup_eq_some_iff.mpr ⟨⟨column, hcolumn, hkey⟩, ?_⟩
  obtain ⟨kind, _, rfl⟩ := List.mem_map.mp hkey
  exact List.mem_cons_self

theorem Assembled.resolve?_cases
    (h : vocabulary.Assembled Registry.standard quote table columns relationships)
    (hkey : vocabulary.resolve? name = some key) :
    vocabulary.names.lookup name = some key ∨ ∃ column reading,
      ReadFirst Registry.standard vocabulary.columns name column reading ∧
        key = reading.key column := by
  unfold resolve? at hkey
  split at hkey
  · rename_i enumerated hlookup
    cases hkey
    exact .inl hlookup
  · rw [h.registry_eq] at hkey
    exact .inr (exists_readFirst Registry.readable_standard hkey)

theorem Assembled.exists_resolve?
    (h : vocabulary.Assembled Registry.standard quote table columns relationships)
    {column : ColumnRef} (hcolumn : column ∈ vocabulary.columns) {reading : Reading}
    (hfits : reading.Fits Registry.standard column.column) :
    ∃ first reading', ReadFirst Registry.standard vocabulary.columns
      (reading.spelling column.column.name) first reading' ∧
      vocabulary.resolve? (reading.spelling column.column.name) = some (reading'.key first) := by
  have hsome := resolveModified?_isSome hcolumn hfits
  obtain ⟨key, hkey⟩ := Option.isSome_iff_exists.mp hsome
  obtain ⟨first, reading', hfirst, rfl⟩ := exists_readFirst Registry.readable_standard hkey
  exact ⟨first, reading', hfirst, by rw [h.resolve?_of_read hsome, hkey]⟩

theorem not_sublist_swap {α : Type} {l : List α} {a b : α} (h : l.Nodup)
    (hab : [a, b].Sublist l) : ¬ [b, a].Sublist l := by
  intro hba
  induction l with
  | nil => cases hab
  | cons first rest ih =>
    obtain ⟨hfirst, hrest⟩ := List.nodup_cons.mp h
    cases hab with
    | cons _ hab =>
      cases hba with
      | cons _ hba => exact ih hrest hab hba
      | cons_cons _ _ => exact hfirst (hab.subset (List.mem_cons_of_mem _ List.mem_cons_self))
    | cons_cons _ _ =>
      cases hba with
      | cons _ hba => exact hfirst (hba.subset (List.mem_cons_of_mem _ List.mem_cons_self))
      | cons_cons _ hba => exact hfirst (List.singleton_sublist.mp hba)

/-- A canonical name leads back to its condition, or to one of the same kind at an earlier column that cuts the column of the condition. -/
theorem Assembled.resolve?_name_cases
    (h : vocabulary.Assembled Registry.standard quote table columns relationships)
    (hkey : vocabulary.resolve? name = some key) :
    ∃ other, vocabulary.resolve? key.name = some other ∧ other.kind = key.kind ∧
      other.valueType = key.valueType ∧ (other = key ∨ other.column.Cuts key.column ∧
        [⟨other.column, other.columnRef⟩, ⟨key.column, key.columnRef⟩].Sublist
          vocabulary.columns) := by
  rcases h.resolve?_cases hkey with hlookup | ⟨column, reading, hread, rfl⟩
  · refine ⟨key, ?_, rfl, rfl, .inl rfl⟩
    rw [resolve?, h.lookup_name hlookup]
  · obtain ⟨first, reading', hfirst, hresolve⟩ := h.exists_resolve? hread.mem hread.fits.canonical
    rw [Reading.spelling_canonical] at hfirst hresolve
    refine ⟨_, hresolve, ?_⟩
    rcases h.eq_or_crossing hfirst.mem hread.mem hfirst.fits hread.fits.canonical
      (hfirst.spelling.trans (Reading.spelling_canonical reading column).symm) with
      rfl | ⟨⟨crossing⟩⟩ | ⟨⟨crossing⟩⟩
    · -- the column of the condition reads the canonical name first
      cases hfirst.fits.unique Registry.readable_standard hread.fits.canonical
        (hfirst.spelling.trans (Reading.spelling_canonical reading first).symm)
      exact ⟨rfl, rfl, .inl rfl⟩
    · have hne : column ≠ first := fun heq => crossing.ne (by rw [heq])
      have hbehind := hfirst.sublist hread.mem hread.fits.canonical
        (Reading.spelling_canonical reading column) hne
      exact ⟨crossing.kind_eq hfirst.fits hread.fits.canonical,
        crossing.type_eq hfirst.fits hread.fits.canonical,
        .inr ⟨crossing.cuts hfirst.fits hread.fits, hbehind⟩⟩
    · -- the other column reads the name itself, too, so neither can be the first
      have hne : first ≠ column := fun heq => crossing.ne (by rw [heq])
      obtain ⟨_, _, _, again, hagain, hsame⟩ := crossing.dayOf hread.fits hfirst.fits
      have hbehind := hfirst.sublist hread.mem hread.fits.canonical
        (Reading.spelling_canonical reading column) hne.symm
      have hbehind' := hread.sublist hfirst.mem hagain (hsame.trans hread.spelling) hne
      exact absurd hbehind' (not_sublist_swap h.nodup_columns hbehind)

/-- A canonical name leads back to its condition unless an earlier column cuts the column of the condition. -/
theorem resolve?_name (hbuild : build Registry.standard source entity = .ok vocabulary)
    (hkey : vocabulary.resolve? name = some key)
    (hcuts : ∀ earlier, [earlier, ⟨key.column, key.columnRef⟩].Sublist vocabulary.columns →
      ¬ earlier.column.Cuts key.column) :
    vocabulary.resolve? key.name = some key := by
  obtain ⟨_, table, columns, _, _, h⟩ := assembledFrom_of_build hbuild
  obtain ⟨other, hother, _, _, rfl | ⟨hcut, hearlier⟩⟩ := h.resolve?_name_cases hkey
  · exact hother
  · exact absurd hcut (hcuts _ hearlier)

/-- Two columns of which the second reads `length` behind it as `char_length`. -/
def bookSchema (type : SemanticType) : Schema where
  definitions := [{ name := "Book", columns := [⟨"title_char", type⟩, ⟨"title", .text⟩] }]

def bookColumns (type : SemanticType) : List ColumnRef :=
  [⟨⟨"title_char", type⟩, "\"books\".\"title_char\""⟩, ⟨⟨"title", .text⟩, "\"books\".\"title\""⟩]

def titleLength : ConditionKey :=
  .ofParts ⟨"title", .text⟩ "\"books\".\"title\""
    [Modifier.textFunction "char_length" ["length"] "CHAR_LENGTH" none (some .integer)]
    Kind.equals .integer

theorem resolve?_name_book : ∃ vocabulary,
    build Registry.standard (bookSchema .binary).source "Book" = .ok vocabulary ∧
      vocabulary.resolve? "title_length_equals" = some titleLength ∧
      (∀ earlier, [earlier, ⟨titleLength.column, titleLength.columnRef⟩].Sublist
        vocabulary.columns → ¬ earlier.column.Cuts titleLength.column) ∧
      vocabulary.resolve? titleLength.name = some titleLength := by
  have htable : (bookSchema .binary).source.tableName "Book" = some "books" := by decide +kernel
  have hrefs : columnRefs Identifier.quote "books"
      [⟨"title_char", .binary⟩, ⟨"title", .text⟩] = bookColumns .binary := by decide +kernel
  obtain ⟨vocabulary, hbuild, hcolumns, hresolve⟩ := exists_build Registry.standard htable
    rfl hrefs (by decide +kernel) (by decide +kernel) (fun _ hmem => nomatch hmem)
    (by decide +kernel)
  have hkey : vocabulary.resolve? "title_length_equals" = some titleLength := by
    rw [hresolve _ (by decide +kernel)]
    decide +kernel
  have hcuts : ∀ earlier, [earlier, ⟨titleLength.column, titleLength.columnRef⟩].Sublist
      vocabulary.columns → ¬ earlier.column.Cuts titleLength.column := by
    have honly : ∀ type, [type, .text].Sublist [SemanticType.binary, .text] → type = .binary := by
      intro type
      cases type <;> decide
    intro earlier hearlier hcut
    have hpair := hearlier.map (·.column.type)
    rw [hcolumns] at hpair
    have htype := honly earlier.column.type hpair
    cases hcut with
    | char _ htext _ => cases htype.symm.trans htext
    | dayOf htemporal _ _ => cases htype.symm.trans htemporal
  exact ⟨vocabulary, hbuild, hkey, hcuts, resolve?_name hbuild hkey hcuts⟩

/-- Where a column cuts a later one, a canonical name can lead to another condition. -/
theorem not_forall_resolve?_name : ¬ ∀ (source : SchemaSource) (entity name : String)
    (vocabulary : Vocabulary) (key : ConditionKey),
    build Registry.standard source entity = .ok vocabulary →
    vocabulary.resolve? name = some key →
    ∃ other, vocabulary.resolve? key.name = some other ∧ other.column = key.column ∧
      other.modifiers = key.modifiers ∧ other.kind = key.kind := by
  intro hall
  have htable : (bookSchema .text).source.tableName "Book" = some "books" := by decide +kernel
  have hrefs : columnRefs Identifier.quote "books"
      [⟨"title_char", .text⟩, ⟨"title", .text⟩] = bookColumns .text := by decide +kernel
  obtain ⟨vocabulary, hbuild, _, hresolve⟩ := exists_build Registry.standard htable
    rfl hrefs (by decide +kernel) (by decide +kernel) (fun _ hmem => nomatch hmem)
    (by decide +kernel)
  have hkey : vocabulary.resolve? "title_length_equals" = some titleLength := by
    rw [hresolve _ (by decide +kernel)]
    decide +kernel
  have hname : (vocabulary.resolve? titleLength.name).map (·.column.name) = some "title_char" := by
    rw [hresolve _ (by decide +kernel)]
    decide +kernel
  obtain ⟨other, hother, hcolumn, _⟩ := hall _ _ _ vocabulary titleLength hbuild hkey
  rw [hother, Option.map_some, hcolumn] at hname
  exact absurd hname (by decide)

end Vocabulary

end SearchFilter
