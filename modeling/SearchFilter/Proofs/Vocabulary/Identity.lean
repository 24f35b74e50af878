import SearchFilter.Proofs.Vocabulary.Canonical
/-!
# Canonical names tell conditions apart

Conditions are compared by their canonical names, so two of them must not have one name. With the standard registry there is one way in which they can: `start_day_of_month` are the days of `start` and the months of `start_day_of`. If `start` is the earlier column, it reads all names that begin like this, and the months of the other column have no name. If `start_day_of` is the earlier one, it reads the canonical names and `start` those with the alias `dom`, and both are stored in one place.
-/

namespace SearchFilter

namespace Vocabulary

variable {source : SchemaSource} {quote : String → String} {table entity name : String}
  {columns : List Column} {relationships : List Relationship} {vocabulary : Vocabulary}
  {key : ConditionKey}

/-! ### Columns that are named alike -/

/-- No column that is a point in time is named like a later one with `_day_of` behind it. -/
def DaysApart (columns : List ColumnRef) : Prop :=
  columns.Pairwise fun earlier later => ¬ (earlier.column.type = .temporal ∧
    later.column.type = .temporal ∧ earlier.column.name = later.column.name ++ "_day_of")

instance (columns : List ColumnRef) : Decidable (DaysApart columns) :=
  inferInstanceAs (Decidable (List.Pairwise _ columns))

theorem not_daysApart_of_crossing {name' : String} {column column' : ColumnRef}
    {reading reading' : Reading}
    (hread : ReadFirst Registry.standard vocabulary.columns name column reading)
    (hread' : ReadFirst Registry.standard vocabulary.columns name' column' reading')
    (crossing : Reading.Crossing column.column column'.column reading.canonical
      reading'.canonical) : ¬ DaysApart vocabulary.columns := by
  intro hapart
  obtain ⟨htype, htype', hname, again, hagain, hsame⟩ :=
    crossing.dayOf hread.fits hread'.fits.canonical
  have hne : column' ≠ column := fun heq => crossing.ne (by rw [heq])
  have hbehind := hread.sublist hread'.mem hagain (hsame.trans hread.spelling) hne
  exact List.pairwise_iff_forall_sublist.mp hapart hbehind ⟨htype, htype', hname⟩

/-! ### Keys with one canonical name -/

theorem Assembled.eq_of_name_eq
    (h : vocabulary.Assembled Registry.standard quote table columns relationships)
    (hapart : DaysApart vocabulary.columns) {name' : String} {key' : ConditionKey}
    (hkey : vocabulary.resolve? name = some key) (hkey' : vocabulary.resolve? name' = some key')
    (hname : key.name = key'.name) : key = key' := by
  -- an enumerated name is not read with modifiers
  have hfree : ∀ {name : String} {column : ColumnRef} {reading : Reading},
      ReadFirst Registry.standard vocabulary.columns name column reading →
      vocabulary.names.lookup (reading.key column).name = none := by
    intro name column reading hread
    rw [← Reading.spelling_canonical]
    exact h.lookup_eq_none (resolveModified?_isSome hread.mem hread.fits.canonical)
  rcases h.resolve?_cases hkey with hlookup | ⟨column, reading, hread, rfl⟩
  · have hlookup := h.lookup_name hlookup
    rcases h.resolve?_cases hkey' with hlookup' | ⟨column', reading', hread', rfl⟩
    · have hlookup' := h.lookup_name hlookup'
      rw [← hname, hlookup] at hlookup'
      exact Option.some.inj hlookup'
    · rw [hname, hfree hread'] at hlookup
      cases hlookup
  · rcases h.resolve?_cases hkey' with hlookup' | ⟨column', reading', hread', rfl⟩
    · have hlookup' := h.lookup_name hlookup'
      rw [← hname, hfree hread] at hlookup'
      cases hlookup'
    · rw [← Reading.spelling_canonical, ← Reading.spelling_canonical] at hname
      rcases h.eq_or_crossing hread.mem hread'.mem hread.fits.canonical hread'.fits.canonical
        hname with rfl | ⟨⟨crossing⟩⟩ | ⟨⟨crossing⟩⟩
      · have hsame := hread.fits.canonical.unique Registry.readable_standard
          hread'.fits.canonical hname
        exact congrArg (fun reading => reading.key column) hsame
      · exact absurd hapart (not_daysApart_of_crossing hread hread' crossing)
      · exact absurd hapart (not_daysApart_of_crossing hread' hread crossing)

/-! ### Readings of a part of a point in time -/

def month : Modifier := Modifier.datePart "month" [] "MONTH"

def dayOfMonth : Modifier := Modifier.datePart "day_of_month" ["dom"] "DAY"

namespace Reading

def part (token : String) (modifier : Modifier) : Reading :=
  ⟨[token], "equals", [modifier], Kind.equals, .integer⟩

theorem fits_month {column : Column} (h : column.type = .temporal) :
    (part "month" month).Fits Registry.standard column where
  nonempty := List.cons_ne_nil _ _
  reads := by
    rw [h]
    exact .cons (by decide +kernel) .nil
  kind := by decide +kernel

theorem fits_dayOfMonth {column : Column} (h : column.type = .temporal) :
    (part "dom" dayOfMonth).Fits Registry.standard column where
  nonempty := List.cons_ne_nil _ _
  reads := by
    rw [h]
    exact .cons (by decide +kernel) .nil
  kind := by decide +kernel

variable {token : String} {modifier : Modifier} {longer shorter : Column} {long short : Reading}

theorem Crossing.token_eq (crossing : Crossing longer shorter long (part token modifier)) :
    crossing.split.token = token := by
  have hmem : crossing.split.token ∈ (part token modifier).tokens := by
    rw [crossing.shortTokens]
    exact List.mem_append_right _ List.mem_cons_self
  exact List.mem_singleton.mp hmem

theorem Crossing.next_eq (crossing : Crossing longer shorter (part token modifier) short) :
    crossing.split.next = token := by
  have hmem : crossing.split.next ∈ (part token modifier).tokens := by
    rw [crossing.longTokens]
    exact List.mem_cons_self
  exact List.mem_singleton.mp hmem

end Reading

/-- The token `dom` cannot be cut, so a column reads its days itself. -/
theorem Assembled.resolve?_dom
    (h : vocabulary.Assembled Registry.standard quote table columns relationships)
    {column : ColumnRef} (hcolumn : column ∈ vocabulary.columns)
    (htype : column.column.type = .temporal) :
    vocabulary.resolve? ((Reading.part "dom" dayOfMonth).spelling column.column.name) =
      some ((Reading.part "dom" dayOfMonth).key column) := by
  have hsplit : ∀ split ∈ splitTokens, split.token ≠ "dom" ∧ split.next ≠ "dom" := by decide
  have hfits := Reading.fits_dayOfMonth htype
  obtain ⟨first, reading, hfirst, hresolve⟩ := h.exists_resolve? hcolumn hfits
  rw [hresolve]
  rcases h.eq_or_crossing hfirst.mem hcolumn hfirst.fits hfits hfirst.spelling with
    rfl | ⟨⟨crossing⟩⟩ | ⟨⟨crossing⟩⟩
  · rw [hfirst.fits.unique Registry.readable_standard hfits hfirst.spelling]
  · exact absurd crossing.token_eq (hsplit _ crossing.mem).1
  · exact absurd crossing.next_eq (hsplit _ crossing.mem).2

/-- A column in front of the one that would read its months as days reads them itself. -/
theorem Assembled.resolve?_month
    (h : vocabulary.Assembled Registry.standard quote table columns relationships)
    {earlier later : ColumnRef} (hsub : [earlier, later].Sublist vocabulary.columns)
    (htype : earlier.column.type = .temporal)
    (hname : earlier.column.name = later.column.name ++ "_day_of") :
    vocabulary.resolve? ((Reading.part "month" month).spelling earlier.column.name) =
      some ((Reading.part "month" month).key earlier) := by
  have hsplit : ∀ split ∈ splitTokens, split.token ≠ "month" := by decide
  have hcolumn : earlier ∈ vocabulary.columns := hsub.subset List.mem_cons_self
  have hlater : later ∈ vocabulary.columns :=
    hsub.subset (List.mem_cons_of_mem _ List.mem_cons_self)
  have hfits := Reading.fits_month htype
  obtain ⟨first, reading, hfirst, hresolve⟩ := h.exists_resolve? hcolumn hfits
  rw [hresolve]
  rcases h.eq_or_crossing hfirst.mem hcolumn hfirst.fits hfits hfirst.spelling with
    rfl | ⟨⟨crossing⟩⟩ | ⟨⟨crossing⟩⟩
  · rw [hfirst.fits.unique Registry.readable_standard hfits hfirst.spelling]
  · exact absurd crossing.token_eq (hsplit _ crossing.mem)
  · -- the other column would have to be the later one
    have hcanonical : Reading.Crossing earlier.column first.column
      (Reading.part "month" month).canonical reading := crossing
    obtain ⟨_, _, hname', _⟩ := hcanonical.dayOf hfits hfirst.fits
    have hsame : first = later := by
      refine h.column_eq hfirst.mem hlater ((String.append_left_inj "_day_of").mp ?_)
      rw [← hname, hname']
    have hne : earlier ≠ first := fun heq => crossing.ne (by rw [heq])
    have hbehind := hfirst.sublist hcolumn hfits rfl hne
    rw [hsame] at hbehind
    exact absurd hbehind (not_sublist_swap h.nodup_columns hsub)

/-- Conditions with one canonical name are the same exactly if no column that is a point in time is named like a later one with `_day_of` behind it. -/
theorem eq_of_name_eq_iff (hbuild : build Registry.standard source entity = .ok vocabulary) :
    (∀ name name' key key', vocabulary.resolve? name = some key →
      vocabulary.resolve? name' = some key' → key.name = key'.name → key = key') ↔
      DaysApart vocabulary.columns := by
  obtain ⟨_, table, columns, _, _, h⟩ := assembledFrom_of_build hbuild
  refine ⟨fun hall => List.pairwise_iff_forall_sublist.mpr ?_,
    fun hapart name name' key key' hkey hkey' hname => h.eq_of_name_eq hapart hkey hkey' hname⟩
  rintro earlier later hsub ⟨htype, htype', hname⟩
  have hlater : later ∈ vocabulary.columns :=
    hsub.subset (List.mem_cons_of_mem _ List.mem_cons_self)
  have hsame := hall _ _ _ _ (h.resolve?_month hsub htype hname) (h.resolve?_dom hlater htype') <| by
    change earlier.column.name ++ "_" ++ "month" ++ "_" ++ "equals" =
      later.column.name ++ "_" ++ "day_of_month" ++ "_" ++ "equals"
    rw [hname]
    simp only [String.append_assoc]
    rfl
  have hmodifiers : [month] = [dayOfMonth] := congrArg ConditionKey.modifiers hsame
  exact absurd hmodifiers (by decide)

def eventSchema (first second : String) : Schema where
  definitions := [{ name := "Event", columns := [⟨first, .temporal⟩, ⟨second, .temporal⟩] }]

def startColumn : ColumnRef := ⟨⟨"start", .temporal⟩, "\"events\".\"start\""⟩

def startDayOfColumn : ColumnRef := ⟨⟨"start_day_of", .temporal⟩, "\"events\".\"start_day_of\""⟩

theorem eq_of_name_eq_event : ∃ vocabulary,
    build Registry.standard (eventSchema "start" "start_day_of").source "Event" = .ok vocabulary ∧
      vocabulary.columns = [startColumn, startDayOfColumn] ∧
      ∀ name name' key key', vocabulary.resolve? name = some key →
        vocabulary.resolve? name' = some key' → key.name = key'.name → key = key' := by
  have htable : (eventSchema "start" "start_day_of").source.tableName "Event" = some "events" := by
    decide +kernel
  have hrefs : columnRefs Identifier.quote "events" [⟨"start", .temporal⟩,
      ⟨"start_day_of", .temporal⟩] = [startColumn, startDayOfColumn] := by decide +kernel
  obtain ⟨vocabulary, hbuild, hcolumns, _⟩ := exists_build Registry.standard htable rfl hrefs
    (by decide +kernel) (by decide +kernel) (fun _ hmem => nomatch hmem) (by decide +kernel)
  have hapart : DaysApart vocabulary.columns := by
    rw [hcolumns]
    decide +kernel
  exact ⟨vocabulary, hbuild, hcolumns, (eq_of_name_eq_iff hbuild).mpr hapart⟩

/-- In the other order of the columns two conditions have one canonical name. -/
theorem not_forall_eq_of_name_eq : ¬ ∀ (source : SchemaSource) (entity name name' : String)
    (vocabulary : Vocabulary) (key key' : ConditionKey),
    build Registry.standard source entity = .ok vocabulary →
    vocabulary.resolve? name = some key → vocabulary.resolve? name' = some key' →
    key.name = key'.name →
    key.column = key'.column ∧ key.modifiers = key'.modifiers ∧ key.kind = key'.kind := by
  intro hall
  have htable : (eventSchema "start_day_of" "start").source.tableName "Event" = some "events" := by
    decide +kernel
  have hrefs : columnRefs Identifier.quote "events" [⟨"start_day_of", .temporal⟩,
      ⟨"start", .temporal⟩] = [startDayOfColumn, startColumn] := by decide +kernel
  obtain ⟨vocabulary, hbuild, _, hresolve⟩ := exists_build Registry.standard htable rfl hrefs
    (by decide +kernel) (by decide +kernel) (fun _ hmem => nomatch hmem) (by decide +kernel)
  have hkey : vocabulary.resolve? "start_dom_equals" =
      some ((Reading.part "dom" dayOfMonth).key startColumn) := by
    rw [hresolve _ (by decide +kernel)]
    decide +kernel
  have hkey' : vocabulary.resolve? "start_day_of_month_equals" =
      some ((Reading.part "month" month).key startDayOfColumn) := by
    rw [hresolve _ (by decide +kernel)]
    decide +kernel
  obtain ⟨hcolumn, _⟩ := hall _ _ _ _ vocabulary _ _ hbuild hkey hkey' (by decide +kernel)
  have hsame : startColumn.column = startDayOfColumn.column := hcolumn
  exact absurd hsame (by decide)

end Vocabulary

end SearchFilter
