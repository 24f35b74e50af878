import SearchFilter.Proofs.Catalog.Built
import SearchFilter.Proofs.Text.Parts
/-!
# The lists that count

For each entity the list that was given last counts, of the accessible names and of the denied ones alike, whatever was given for other entities in between. Merging keeps these lists. When the catalog is built, the vocabulary of an entity gets their canonical names as its policy.
-/

namespace SearchFilter

namespace PolicyLists

variable {policies earlier : List PolicyLists} {lists : PolicyLists} {entity : String}

/-- The list that was given last for the entity, of those that the field selects. -/
def lastGiven (field : PolicyLists → Option (List String)) (policies : List PolicyLists)
    (entity : String) : Option (List String) :=
  (policies.filter fun lists => lists.entity = entity).reverse.findSome? field

def accessibleFor (policies : List PolicyLists) (entity : String) : Option (List String) :=
  lastGiven accessible policies entity

def deniedFor (policies : List PolicyLists) (entity : String) : Option (List String) :=
  lastGiven denied policies entity

variable {field : PolicyLists → Option (List String)}

theorem lastGiven_append (policies policies' : List PolicyLists) (entity : String) :
    lastGiven field (policies ++ policies') entity =
      (lastGiven field policies' entity).or (lastGiven field policies entity) := by
  simp only [lastGiven, List.filter_append, List.reverse_append, List.findSome?_append]

theorem lastGiven_singleton (lists : PolicyLists) (entity : String) :
    lastGiven field [lists] entity = if lists.entity = entity then field lists else none := by
  by_cases h : lists.entity = entity <;> simp [lastGiven, h]

theorem lastGiven_cons (lists : PolicyLists) (policies : List PolicyLists) (entity : String) :
    lastGiven field (lists :: policies) entity =
      (lastGiven field policies entity).or
        (if lists.entity = entity then field lists else none) := by
  rw [← List.singleton_append, lastGiven_append, lastGiven_singleton]

theorem mem_of_lastGiven {names : List String} (h : lastGiven field policies entity = some names) :
    entity ∈ policies.map (·.entity) := by
  obtain ⟨lists, hlists, _⟩ := List.exists_of_findSome?_eq_some h
  obtain ⟨hmem, hentity⟩ := List.mem_filter.mp (List.mem_reverse.mp hlists)
  exact List.mem_map.mpr ⟨lists, hmem, of_decide_eq_true hentity⟩

theorem lastGiven_eq_none (h : entity ∉ policies.map (·.entity)) :
    lastGiven field policies entity = none :=
  Option.eq_none_iff_forall_ne_some.mpr fun _ hgiven => h (mem_of_lastGiven hgiven)

theorem lastGiven_of_mem (hnodup : (policies.map (·.entity)).Nodup) (h : lists ∈ policies) :
    lastGiven field policies lists.entity = field lists := by
  induction policies with
  | nil => exact absurd h List.not_mem_nil
  | cons first rest ih =>
    rw [List.map_cons, List.nodup_cons] at hnodup
    rw [lastGiven_cons]
    rcases List.mem_cons.mp h with rfl | hmem
    · rw [lastGiven_eq_none hnodup.1, Option.none_or, if_pos rfl]
    · have hother : first.entity ≠ lists.entity := fun heq =>
        hnodup.1 (heq ▸ List.mem_map_of_mem hmem)
      rw [ih hnodup.2 hmem, if_neg hother, Option.or_none]

/-! ### Merging -/

theorem mem_map_entity_add :
    entity ∈ (add earlier lists).map (·.entity) ↔
      entity ∈ earlier.map (·.entity) ∨ entity = lists.entity := by
  induction earlier with
  | nil => simp [add]
  | cons other rest ih =>
    rw [add]
    split
    · rename_i hsame
      simp only [List.map_cons, List.mem_cons, hsame]
      exact (or_iff_left_of_imp .inl).symm
    · simp only [List.map_cons, List.mem_cons, ih, or_assoc]

theorem nodup_map_entity_add (h : (earlier.map (·.entity)).Nodup) (lists : PolicyLists) :
    ((add earlier lists).map (·.entity)).Nodup := by
  induction earlier with
  | nil => exact List.pairwise_singleton _ _
  | cons other rest ih =>
    rw [List.map_cons, List.nodup_cons] at h
    rw [add]
    split
    · exact List.nodup_cons.mpr h
    · rename_i hother
      rw [List.map_cons, List.nodup_cons, mem_map_entity_add]
      exact ⟨not_or.mpr ⟨h.1, hother⟩, ih h.2⟩

theorem lastGiven_add (hfield : field = accessible ∨ field = denied)
    (h : (earlier.map (·.entity)).Nodup) (lists : PolicyLists) (entity : String) :
    lastGiven field (add earlier lists) entity = lastGiven field (earlier ++ [lists]) entity := by
  induction earlier with
  | nil => rfl
  | cons other rest ih =>
    rw [List.map_cons, List.nodup_cons] at h
    rw [add]
    split
    · rename_i hsame
      rw [List.cons_append, lastGiven_cons, lastGiven_cons, lastGiven_append, lastGiven_singleton]
      by_cases hentity : other.entity = entity
      · have hnone : lastGiven field rest entity = none := lastGiven_eq_none (hentity ▸ h.1)
        rw [hnone, if_pos hentity, if_pos hentity, if_pos (hsame.symm.trans hentity)]
        rcases hfield with rfl | rfl <;> simp [Option.orElse_eq_or]
      · have hentity' : lists.entity ≠ entity := hsame ▸ hentity
        rw [if_neg hentity, if_neg hentity, if_neg hentity', Option.none_or]
    · rw [List.cons_append, lastGiven_cons, lastGiven_cons, ih h.2]

theorem foldl_add_spec (earlier : List PolicyLists) (h : (earlier.map (·.entity)).Nodup)
    (policies : List PolicyLists) :
    ((policies.foldl add earlier).map (·.entity)).Nodup ∧
      ∀ field, field = accessible ∨ field = denied → ∀ entity,
        lastGiven field (policies.foldl add earlier) entity =
          lastGiven field (earlier ++ policies) entity := by
  induction policies generalizing earlier with
  | nil => exact ⟨h, fun _ _ _ => by rw [List.append_nil]; rfl⟩
  | cons lists rest ih =>
    obtain ⟨hnodup, hfields⟩ := ih _ (nodup_map_entity_add h lists)
    refine ⟨hnodup, fun field hfield entity => ?_⟩
    rw [List.foldl_cons, hfields field hfield, lastGiven_append, lastGiven_add hfield h,
      ← lastGiven_append, List.append_assoc, List.singleton_append]

theorem nodup_map_entity_merged (policies : List PolicyLists) :
    ((merged policies).map (·.entity)).Nodup :=
  ((Text.sortByKey_perm _ _).map _).nodup_iff.mpr (foldl_add_spec [] List.nodup_nil policies).1

theorem lastGiven_of_mem_merged (hfield : field = accessible ∨ field = denied)
    (h : lists ∈ merged policies) : field lists = lastGiven field policies lists.entity := by
  obtain ⟨hnodup, hfields⟩ := foldl_add_spec [] List.nodup_nil policies
  calc field lists
      = lastGiven field (policies.foldl add []) lists.entity :=
        (lastGiven_of_mem hnodup ((Text.sortByKey_perm _ _).mem_iff.mp h)).symm
    _ = lastGiven field policies lists.entity := hfields field hfield _

theorem exists_mem_merged (hfield : field = accessible ∨ field = denied) {names : List String}
    (h : lastGiven field policies entity = some names) :
    ∃ lists ∈ merged policies, lists.entity = entity := by
  rw [← List.nil_append policies,
    ← (foldl_add_spec [] List.nodup_nil policies).2 field hfield] at h
  obtain ⟨lists, hmem, hentity⟩ := List.mem_map.mp (mem_of_lastGiven h)
  exact ⟨lists, (Text.sortByKey_perm _ _).mem_iff.mpr hmem, hentity⟩

end PolicyLists

/-! ### Canonical names -/

/-- What an entry of a list stands for: a relationship for itself, any other name for the canonical name of its condition. -/
def Vocabulary.entryName? (vocabulary : Vocabulary) (entry : String) : Option String :=
  match vocabulary.relationship? entry with
  | some _ => some entry
  | none => (vocabulary.resolve? entry).map (·.name)

namespace PolicyLists

variable {vocabulary : Vocabulary} {policies : List PolicyLists} {entity : String}
  {names listed : List String}

theorem canonical_cons (vocabulary : Vocabulary) (entry : String) (rest : List String) :
    canonical vocabulary (entry :: rest) =
      match vocabulary.entryName? entry with
      | some name => (canonical vocabulary rest).map (name :: ·)
      | none => .error (.unknownProtectedName vocabulary.entity entry) := by
  rw [canonical, Vocabulary.entryName?]
  cases vocabulary.relationship? entry with
  | some relationship => rfl
  | none => cases vocabulary.resolve? entry <;> rfl

theorem canonical_eq_ok_iff :
    canonical vocabulary names = .ok listed ↔
      names.map vocabulary.entryName? = listed.map some := by
  induction names generalizing listed with
  | nil => cases listed <;> simp [canonical]
  | cons entry rest ih =>
    rw [canonical_cons, List.map_cons]
    cases hentry : vocabulary.entryName? entry with
    | none => cases listed <;> simp
    | some name =>
      simp only [Outcome.map_eq_ok_iff, ih]
      cases listed with
      | nil => simp
      | cons first others =>
        constructor
        · rintro ⟨_, hrest, heq⟩
          obtain ⟨rfl, rfl⟩ := List.cons_eq_cons.mp heq
          rw [hrest, List.map_cons]
        · intro heq
          obtain ⟨hfirst, hrest⟩ := List.cons_eq_cons.mp heq
          exact ⟨others, hrest, by rw [Option.some.inj hfirst]⟩

theorem exists_canonical_iff :
    (∃ listed, canonical vocabulary names = .ok listed) ↔
      ∀ entry ∈ names, (vocabulary.entryName? entry).isSome = true := by
  simp only [canonical_eq_ok_iff]
  induction names with
  | nil => exact iff_of_true ⟨[], rfl⟩ (by simp)
  | cons entry rest ih =>
    rw [List.forall_mem_cons, ← ih, Option.isSome_iff_exists]
    constructor
    · rintro ⟨_ | ⟨name, listed⟩, heq⟩
      · cases heq
      · obtain ⟨hentry, hrest⟩ := List.cons_eq_cons.mp heq
        exact ⟨⟨name, hentry⟩, listed, hrest⟩
    · rintro ⟨⟨name, hentry⟩, listed, hrest⟩
      exact ⟨name :: listed, List.cons_eq_cons.mpr ⟨hentry, hrest⟩⟩

/-- The canonical names are what the entries of the list stand for. Where no list is given there are none. -/
def Names (vocabulary : Vocabulary) (given listed : Option (List String)) : Prop :=
  given.map (·.map vocabulary.entryName?) = listed.map (·.map some)

theorem canonicalOptional_eq_ok_iff {given listed : Option (List String)} :
    canonicalOptional vocabulary given = .ok listed ↔ Names vocabulary given listed := by
  cases given with
  | none => cases listed <;> simp [canonicalOptional, Names]
  | some names =>
    cases listed <;> simp [canonicalOptional, Names, Outcome.map_eq_ok_iff, canonical_eq_ok_iff]

theorem exists_canonicalOptional_iff {given : Option (List String)} :
    (∃ listed, canonicalOptional vocabulary given = .ok listed) ↔
      ∀ names, given = some names →
        ∀ entry ∈ names, (vocabulary.entryName? entry).isSome = true := by
  cases given with
  | none => simp [canonicalOptional]
  | some names =>
    simp only [canonicalOptional, Outcome.map_eq_ok_iff, Option.some.injEq, forall_eq',
      ← exists_canonical_iff]
    exact ⟨fun ⟨_, listed, h, _⟩ => ⟨listed, h⟩, fun ⟨listed, h⟩ => ⟨_, listed, h, rfl⟩⟩

/-- Whatever is asked of a name being listed can be asked of an entry standing for it. -/
theorem Names.exists_iff {given listed : Option (List String)} (h : Names vocabulary given listed)
    (asked : Prop → Prop) (name : String) :
    (∃ names, listed = some names ∧ asked (name ∈ names)) ↔
      ∃ entries, given = some entries ∧
        asked (∃ entry ∈ entries, vocabulary.entryName? entry = some name) := by
  cases given with
  | none => cases listed with
    | none => simp
    | some names => cases h
  | some entries => cases listed with
    | none => cases h
    | some names =>
      have hsame : entries.map vocabulary.entryName? = names.map some := Option.some.inj h
      have hmem : name ∈ names ↔ ∃ entry ∈ entries, vocabulary.entryName? entry = some name := by
        rw [← List.mem_map, hsame, List.mem_map]
        simp
      simp only [Option.some.injEq, exists_eq_left', hmem]

theorem Names.eq_none_iff {given listed : Option (List String)}
    (h : Names vocabulary given listed) : listed = none ↔ given = none := by
  cases given with
  | none => cases listed with
    | none => exact Iff.rfl
    | some names => cases h
  | some entries => cases listed with
    | none => cases h
    | some names => simp only [reduceCtorEq]

/-- The lists that count for an entity let something pass: no list is given, or it is among the accessible names, or it is not among the denied ones. What it means to be among the names of a list is left open. -/
def Pass (policies : List PolicyLists) (entity : String) (listed : List String → Prop) : Prop :=
  (accessibleFor policies entity = none ∧ deniedFor policies entity = none) ∨
  (∃ names, accessibleFor policies entity = some names ∧ listed names) ∨
  ∃ names, deniedFor policies entity = some names ∧ ¬ listed names

theorem pass_congr {listed listed' : List String → Prop}
    (h : ∀ names, listed names ↔ listed' names) (policies : List PolicyLists) (entity : String) :
    Pass policies entity listed ↔ Pass policies entity listed' := by
  simp only [Pass, h]

theorem pass_iff_of_accessible {listed : List String → Prop}
    (haccessible : accessibleFor policies entity = some names)
    (hdenied : deniedFor policies entity = none) :
    Pass policies entity listed ↔ listed names := by
  simp [Pass, haccessible, hdenied]

theorem pass_iff_of_denied {listed : List String → Prop}
    (haccessible : accessibleFor policies entity = none)
    (hdenied : deniedFor policies entity = some names) :
    Pass policies entity listed ↔ ¬ listed names := by
  simp [Pass, haccessible, hdenied]

def ofDefinitions (schema : Schema) : List PolicyLists :=
  schema.definitions.map fun definition =>
    { entity := definition.name, accessible := definition.accessible, denied := definition.denied }

end PolicyLists

namespace Catalog

variable {registry : Registry} {source : SchemaSource} {catalog : Catalog}
  {vocabularies vocabularies' : List Vocabulary} {policies : List PolicyLists}
  {lists : PolicyLists} {entity : String} {vocabulary : Vocabulary}

/-! ### The policies of a catalog -/

/-- The policy of the vocabulary comes from the lists that count for its entity. -/
structure Follows (policies : List PolicyLists) (vocabulary : Vocabulary) : Prop where
  accessible : PolicyLists.Names vocabulary
    (PolicyLists.accessibleFor policies vocabulary.entity) vocabulary.policy.accessible
  denied : PolicyLists.Names vocabulary
    (PolicyLists.deniedFor policies vocabulary.entity) vocabulary.policy.denied

theorem policy_of_addEntity_fold
    (h : source.entities.foldlM (addEntity registry source) [] = .ok vocabularies) :
    ∀ vocabulary ∈ vocabularies, vocabulary.policy = {} := by
  refine Outcome.foldlM_invariant
    (fun _ (built : List Vocabulary) => ∀ vocabulary ∈ built, vocabulary.policy = {})
    (fun entity rest built built' hbuilt hadd => ?_) (by simp) h
  obtain ⟨_, vocabulary, hbuild, _, rfl⟩ := addEntity_eq_ok_iff.mp hadd
  intro other hother
  rcases List.mem_append.mp hother with hold | hnew
  · exact hbuilt other hold
  · rw [List.mem_singleton.mp hnew]
    exact Vocabulary.policy_of_build hbuild

theorem find?_givePolicy (vocabularies : List Vocabulary) (entity other : String)
    (policy : Policy) :
    (vocabularies.map (givePolicy entity policy)).find?
        (fun vocabulary => vocabulary.entity == other) =
      (vocabularies.find? fun vocabulary => vocabulary.entity == other).map
        (givePolicy entity policy) := by
  rw [List.find?_map]
  simp only [Function.comp_def, givePolicy_entity]

/-- The lists that are still to come have given nothing yet, and all others have given their policy. -/
def Follow (policies rest : List PolicyLists) (vocabularies : List Vocabulary) : Prop :=
  ∀ entity vocabulary,
    vocabularies.find? (fun vocabulary => vocabulary.entity == entity) = some vocabulary →
    (entity ∉ rest.map (·.entity) → Follows policies vocabulary) ∧
    (entity ∈ rest.map (·.entity) → vocabulary.policy = {})

theorem follow_start (h : ∀ vocabulary ∈ vocabularies, vocabulary.policy = {}) :
    Follow policies (PolicyLists.merged policies) vocabularies := by
  intro entity vocabulary hfound
  have hopen := h vocabulary (List.mem_of_find?_eq_some hfound)
  have hentity : vocabulary.entity = entity := by simpa using List.find?_some hfound
  refine ⟨fun hnone => ?_, fun _ => hopen⟩
  -- no lists are left for the entity, so none were given
  have hgiven : ∀ field, field = PolicyLists.accessible ∨ field = PolicyLists.denied →
      PolicyLists.lastGiven field policies entity = none := by
    intro field hfield
    refine Option.eq_none_iff_forall_ne_some.mpr fun names hnames => ?_
    obtain ⟨lists, hmem, hlists⟩ := PolicyLists.exists_mem_merged hfield hnames
    exact hnone (List.mem_map.mpr ⟨lists, hmem, hlists⟩)
  constructor
  · rw [hentity, PolicyLists.accessibleFor, hgiven _ (.inl rfl), hopen]
    rfl
  · rw [hentity, PolicyLists.deniedFor, hgiven _ (.inr rfl), hopen]
    rfl

theorem follows_of_names (hmerged : lists ∈ PolicyLists.merged policies)
    (hentity : vocabulary.entity = lists.entity)
    (haccessible : PolicyLists.Names vocabulary lists.accessible vocabulary.policy.accessible)
    (hdenied : PolicyLists.Names vocabulary lists.denied vocabulary.policy.denied) :
    Follows policies vocabulary := by
  rw [PolicyLists.lastGiven_of_mem_merged (.inl rfl) hmerged, ← hentity] at haccessible
  rw [PolicyLists.lastGiven_of_mem_merged (.inr rfl) hmerged, ← hentity] at hdenied
  exact ⟨haccessible, hdenied⟩

theorem entity_of_find? (h : vocabularies.find? (fun vocabulary => vocabulary.entity == entity) =
    some vocabulary) : vocabulary.entity = entity := by
  simpa using List.find?_some h

theorem follow_step {rest : List PolicyLists} (hfresh : lists.entity ∉ rest.map (·.entity))
    (hmerged : lists ∈ PolicyLists.merged policies)
    (hadd : addPolicy vocabularies lists = .ok vocabularies')
    (h : Follow policies (lists :: rest) vocabularies) : Follow policies rest vocabularies' := by
  intro entity vocabulary hfound
  by_cases hsame : entity = lists.entity
  · subst hsame
    refine ⟨fun _ => ?_, fun hmem => absurd hmem hfresh⟩
    rcases addPolicy_eq_ok_iff.mp hadd with
      ⟨⟨hnone, hnone'⟩, rfl⟩ | ⟨_, before, accessible, denied, hbefore, hok, hok', rfl⟩
    · have hopen := (h _ vocabulary hfound).2 List.mem_cons_self
      refine follows_of_names hmerged (entity_of_find? hfound) ?_ ?_
      · rw [hnone, hopen]
        rfl
      · rw [hnone', hopen]
        rfl
    · have hentity := entity_of_find? hbefore
      rw [find?_givePolicy, hbefore, Option.map_some, givePolicy, if_pos hentity] at hfound
      cases hfound
      -- what an entry stands for does not depend on the policy
      have hnames := PolicyLists.canonicalOptional_eq_ok_iff.mp hok
      have hnames' := PolicyLists.canonicalOptional_eq_ok_iff.mp hok'
      exact follows_of_names hmerged hentity hnames hnames'
  · have hbefore : vocabularies.find? (fun vocabulary => vocabulary.entity == entity) =
        some vocabulary := by
      rcases addPolicy_eq_ok_iff.mp hadd with ⟨_, rfl⟩ | ⟨_, _, _, _, _, _, _, rfl⟩
      · exact hfound
      · rw [find?_givePolicy] at hfound
        obtain ⟨before, hbefore, rfl⟩ := Option.map_eq_some_iff.mp hfound
        rw [hbefore, givePolicy, if_neg (entity_of_find? hbefore ▸ hsame)]
    obtain ⟨hdone, htodo⟩ := h entity vocabulary hbefore
    refine ⟨fun hmem => hdone fun hmem' => ?_, fun hmem => htodo (List.mem_cons_of_mem _ hmem)⟩
    rcases List.mem_cons.mp hmem' with heq | hmem'
    · exact hsame heq
    · exact hmem hmem'

/-- Every vocabulary of a built catalog follows the lists that were given. -/
theorem follows_of_build (h : build registry source policies = .ok catalog)
    (hvocabulary : catalog.vocabulary? entity = some vocabulary) : Follows policies vocabulary := by
  obtain ⟨vocabularies, hentities, h⟩ := Outcome.bind_eq_ok_iff.mp h
  obtain ⟨guarded, hpolicies, h⟩ := Outcome.bind_eq_ok_iff.mp h
  cases h
  have hend := Outcome.foldlM_invariant
    (fun rest (built : List Vocabulary) => (rest.map (·.entity)).Nodup ∧
      (∀ lists ∈ rest, lists ∈ PolicyLists.merged policies) ∧ Follow policies rest built)
    (fun lists rest built built' hbuilt hadd => ?_)
    ⟨PolicyLists.nodup_map_entity_merged policies, fun _ h => h,
      follow_start (policy_of_addEntity_fold hentities)⟩ hpolicies
  · exact (hend.2.2 entity vocabulary hvocabulary).1 List.not_mem_nil
  · obtain ⟨hnodup, hmerged, hfollow⟩ := hbuilt
    rw [List.map_cons, List.nodup_cons] at hnodup
    exact ⟨hnodup.2, fun lists hmem => hmerged lists (List.mem_cons_of_mem _ hmem),
      follow_step hnodup.1 (hmerged lists List.mem_cons_self) hadd hfollow⟩

theorem policy_permits_iff (policy : Policy) (name : String) :
    policy.permits name = true ↔
      (policy.accessible = none ∧ policy.denied = none) ∨
      (∃ names, policy.accessible = some names ∧ name ∈ names) ∨
      ∃ names, policy.denied = some names ∧ name ∉ names := by
  unfold Policy.permits
  split <;> simp [*]

/-- The policy permits a name exactly if the lists let pass what their entries stand for. -/
theorem Follows.permits_iff (h : Follows policies vocabulary) (name : String) :
    vocabulary.policy.permits name = true ↔
      PolicyLists.Pass policies vocabulary.entity fun names =>
        ∃ entry ∈ names, vocabulary.entryName? entry = some name := by
  rw [policy_permits_iff, h.accessible.eq_none_iff, h.denied.eq_none_iff]
  exact or_congr_right (or_congr (h.accessible.exists_iff id name) (h.denied.exists_iff Not name))

end Catalog

end SearchFilter
