import SearchFilter.Proofs.Catalog.Acceptance
import SearchFilter.Proofs.ConditionTree.EntryPoints
import SearchFilter.Proofs.ConditionTree.Withholding
import SearchFilter.Proofs.Vocabulary.Canonical
/-!
# Lists act on conditions, not on spellings

The lists of a policy are written with names of any spelling, and so is input. When the catalog is built the entries become canonical names, and when input is applied its names do. So whether a pair for a condition passes is a matter of what the entries of the lists resolve to, and each condition has one answer for all of its names. Relationships have only one name, and only they are listed by it.

A pair for a condition is dropped or treated as on a tree without protection. A pair for a relationship is neither: what is dropped is still screened, and what is permitted stays untrusted below.

Relationships and conditions share one list of canonical names. The theorem therefore asks that no relationship is called like the canonical name of a condition. With the standard registry this is so where no relationship has the name of a condition at all.
-/

namespace SearchFilter

open PolicyLists (Pass)

namespace Vocabulary

variable {vocabulary : Vocabulary} {policies : List PolicyLists} {key : ConditionKey}
  {name : String}

/-- An entry of the list resolves to a condition with this canonical name. Names of relationships do not count. -/
def ListsCondition (vocabulary : Vocabulary) (name : String) (names : List String) : Prop :=
  ∃ entry ∈ names, vocabulary.relationship? entry = none ∧
    ∃ key, vocabulary.resolve? entry = some key ∧ key.name = name

/-- No relationship is called like the canonical name of a condition. -/
def Separate (vocabulary : Vocabulary) : Prop :=
  ∀ name key, vocabulary.resolve? name = some key → vocabulary.relationship? key.name = none

/-- With the standard registry canonical names resolve, so they are no names of relationships if no name of a relationship resolves. -/
theorem Assembled.separate {quote : String → String} {table : String} {columns : List Column}
    {relationships : List Relationship}
    (h : vocabulary.Assembled Registry.standard quote table columns relationships)
    (hplain : ∀ relationship ∈ vocabulary.relationships,
      vocabulary.resolve? relationship.name = none) : vocabulary.Separate := by
  intro name key hkey
  obtain ⟨other, hother, _⟩ := h.resolve?_name_cases hkey
  refine Option.eq_none_iff_forall_ne_some.mpr fun relationship hrelationship => ?_
  have hname : relationship.name = key.name := by simpa using List.find?_some hrelationship
  have hnone := hplain relationship (relationship?_mem hrelationship)
  rw [hname, hother] at hnone
  cases hnone

theorem Separate.permits_condition (h : vocabulary.Separate)
    (hfollows : Catalog.Follows policies vocabulary) (hkey : vocabulary.resolve? name = some key) :
    vocabulary.policy.permits key.name = true ↔
      Pass policies vocabulary.entity (vocabulary.ListsCondition key.name) := by
  rw [hfollows.permits_iff]
  refine PolicyLists.pass_congr (fun names => exists_congr fun entry => and_congr_right fun _ => ?_)
    policies vocabulary.entity
  unfold entryName?
  split
  · rename_i relationship hrelationship
    simp only [Option.some.injEq, hrelationship, reduceCtorEq, false_and, iff_false]
    rintro rfl
    rw [h name key hkey] at hrelationship
    cases hrelationship
  · rename_i hrelationship
    simp only [Option.map_eq_some_iff, hrelationship, true_and]

theorem Separate.permits_relationship (h : vocabulary.Separate)
    (hfollows : Catalog.Follows policies vocabulary) {relationship : Relationship}
    (hrelationship : vocabulary.relationship? name = some relationship) :
    vocabulary.policy.permits name = true ↔ Pass policies vocabulary.entity (name ∈ ·) := by
  rw [hfollows.permits_iff]
  refine PolicyLists.pass_congr (fun names => ⟨?_, fun hmem => ⟨name, hmem, ?_⟩⟩)
    policies vocabulary.entity
  · rintro ⟨entry, hmem, hentry⟩
    unfold entryName? at hentry
    split at hentry
    · cases hentry
      exact hmem
    · obtain ⟨key, hkey, rfl⟩ := Option.map_eq_some_iff.mp hentry
      rw [h entry key hkey] at hrelationship
      cases hrelationship
  · rw [entryName?, hrelationship]

end Vocabulary

namespace ConditionTree

open Params

variable {catalog : Catalog} {registry : Registry} {source : SchemaSource}
  {policies : List PolicyLists} {tree : ConditionTree} {name : String} {key : ConditionKey}

/-- What becomes of pairs for a condition. They are dropped, or they do what they do to a tree without protection, and it does not matter by which of its names the condition is called. -/
structure AppliesCondition (catalog : Catalog) (tree : ConditionTree) (passes : Prop)
    (name : String) (key : ConditionKey) : Prop where
  dropped : ¬ passes → ∀ params, tree.apply catalog (.mapping [(name, params)]) = .ok tree
  applied : passes → ∀ params, (tree.apply catalog (.mapping [(name, params)])).map cleared =
    tree.cleared.apply catalog (.mapping [(name, params)])
  aliases : ∀ other params, tree.vocabulary.relationship? other = none →
    tree.vocabulary.resolve? other = some key →
    tree.apply catalog (.mapping [(other, params)]) = tree.apply catalog (.mapping [(name, params)])

/-- What becomes of pairs for a relationship to an entity. Raw scopes and unknown names are refused in any case. All else is dropped, or what policies permit of it does what it does to a tree without protection. -/
structure AppliesRelationship (catalog : Catalog) (tree : ConditionTree) (passes : Prop)
    (name : String) (target : Vocabulary) : Prop where
  refused : ∀ params : Params, ¬ params.Clean catalog target →
    ∃ e, tree.apply catalog (.mapping [(name, params)]) = .error e
  dropped : ¬ passes → ∀ params : Params, params.Clean catalog target →
    tree.apply catalog (.mapping [(name, params)]) = .ok tree
  applied : passes → ∀ params : Params, params.Clean catalog target →
    (tree.apply catalog (.mapping [(name, params)])).map cleared =
      tree.cleared.apply catalog (.mapping [(name, params.permitted catalog target)])

theorem applyPair_condition {untrusted : Bool}
    (hrelationship : tree.vocabulary.relationship? name = none) (params : Params) :
    applyPair catalog untrusted (name, params) tree =
      tree.applyCondition catalog untrusted name params := by
  simp only [applyPair, hrelationship]

theorem appliesCondition {passes : Prop} (hprotected : tree.isProtected = true)
    (hpermits : tree.vocabulary.policy.permits key.name = true ↔ passes)
    (hrelationship : tree.vocabulary.relationship? name = none)
    (hkey : tree.vocabulary.resolve? name = some key) :
    AppliesCondition catalog tree passes name key where
  dropped hpasses params := by
    rw [apply_singleton, hprotected, applyPair_condition hrelationship,
      applyCondition_of_not_permits hkey (mt hpermits.mp hpasses)]
  applied hpasses params := by
    have hflags : FlagChange catalog cleared := flagChange_cleared
    have hrelationship' := hrelationship
    rw [← hflags.vocabulary tree] at hrelationship'
    rw [apply_singleton, apply_singleton, applyPair_condition hrelationship,
      applyPair_condition hrelationship']
    exact applyCondition_map hflags hkey (hpermits.mpr hpasses) _ _
  aliases other params hother hkey' := by
    rw [apply_singleton, apply_singleton, applyPair_condition hother,
      applyPair_condition hrelationship]
    simp only [applyCondition, resolve_eq_ok_iff.mpr hkey, resolve_eq_ok_iff.mpr hkey']

theorem appliesRelationship {passes : Prop} (hbuilt : catalog.Built registry source)
    (hconsistent : Everywhere (Consistent catalog) tree) (hprotected : tree.isProtected = true)
    (hpermits : tree.vocabulary.policy.permits name = true ↔ passes) {relationship : Relationship}
    {target : Vocabulary} (hrelationship : tree.vocabulary.relationship? name = some relationship)
    (htarget : catalog.vocabulary? relationship.entity = some target) :
    AppliesRelationship catalog tree passes name target where
  refused params hclean := by
    cases happly : tree.apply catalog (.mapping [(name, params)]) with
    | error e => exact ⟨e, rfl⟩
    | ok tree' =>
      have hwhole := clean_of_applyParams (by rw [hprotected]; rfl) hconsistent happly
      exact (hclean (hwhole.below hrelationship htarget)).elim
  dropped hpasses params hclean := by
    rw [apply_singleton, hprotected,
      applyPair_of_not_permits hrelationship htarget (mt hpermits.mp hpasses),
      screen_of_clean hbuilt params htarget hclean, Outcome.map_ok]
  applied hpasses params hclean := by
    rw [apply_singleton, hprotected, applyPair_relationship_map flagChange_cleared hconsistent
      hrelationship htarget (screen_of_clean hbuilt params htarget hclean) tree.cleared.isProtected
      fun child hentity hchild => ?_, permittedPairs_of_relationship hrelationship htarget,
      if_pos (hpermits.mpr hpasses), permittedPairs, applyPairs_singleton, apply_singleton]
    rw [← hentity] at hclean ⊢
    exact applyParams_map hbuilt flagChange_cleared params _ rfl hchild hclean

/-- No relationship of a user is called like a condition, and the condition that is denied has another name. -/
theorem exists_blogUser : ∃ user key, Catalog.blog.vocabulary? "User" = some user ∧
    (∀ relationship ∈ user.relationships, user.resolve? relationship.name = none) ∧
    user.relationship? "posts" = some ⟨"posts", "Post"⟩ ∧
    user.relationship? "key_nil" = none ∧ user.resolve? "key_nil" = some key ∧
    user.relationship? "key_is_null" = none ∧ user.resolve? "key_is_null" = some key := by
  obtain ⟨user, _, huser, _, hposts, _⟩ := Catalog.blog_vocabularies
  have hread : (Catalog.blog.vocabulary? "User").map (fun user =>
      (user.relationships.all fun relationship => (user.resolve? relationship.name).isNone,
        user.resolve? "key_nil" == user.resolve? "key_is_null",
        (user.resolve? "key_is_null").isSome, user.relationship? "key_nil",
        user.relationship? "key_is_null")) =
      some (true, true, true, none, none) := by
    decide +kernel
  rw [huser, Option.map_some, Option.some.injEq] at hread
  simp only [Prod.mk.injEq, beq_iff_eq, List.all_eq_true, Option.isNone_iff_eq_none] at hread
  obtain ⟨hplain, hsame, hkey, hnil, hnull⟩ := hread
  obtain ⟨key, hkey⟩ := Option.isSome_iff_exists.mp hkey
  exact ⟨user, key, huser, hplain, hposts, hnil, hsame.trans hkey, hnull, hkey⟩

theorem pass_blogUser_iff (listed : List String → Prop) :
    Pass (PolicyLists.ofDefinitions Catalog.blogSchema) "User" listed ↔
      ¬ listed ["key_is_null", "drafts"] :=
  PolicyLists.pass_iff_of_denied (by decide +kernel) (by decide +kernel)

/-- On a protected tree the lists that count for its entity decide about each condition through what their entries resolve to, and about each relationship through its name. Lists in another spelling make the same catalog. -/
theorem apply_of_lists (hbuild : Catalog.build registry source policies = .ok catalog)
    (htree : Reachable catalog tree) (hprotected : tree.isProtected = true)
    (hseparate : tree.vocabulary.Separate) :
    (∀ name key, tree.vocabulary.relationship? name = none →
      tree.vocabulary.resolve? name = some key →
      AppliesCondition catalog tree
        (Pass policies tree.entity (tree.vocabulary.ListsCondition key.name)) name key) ∧
    (∀ name relationship, tree.vocabulary.relationship? name = some relationship →
      ∃ target, catalog.vocabulary? relationship.entity = some target ∧
        AppliesRelationship catalog tree (Pass policies tree.entity (name ∈ ·)) name target) ∧
    ∀ policies' catalog', Catalog.build registry source policies' = .ok catalog' →
      (∀ vocabulary ∈ catalog.vocabularies,
        Catalog.SameNames vocabulary (PolicyLists.accessibleFor policies vocabulary.entity)
          (PolicyLists.accessibleFor policies' vocabulary.entity) ∧
        Catalog.SameNames vocabulary (PolicyLists.deniedFor policies vocabulary.entity)
          (PolicyLists.deniedFor policies' vocabulary.entity)) → catalog' = catalog := by
  have hvocabulary := htree.consistent.here.vocabulary
  have hfollows := Catalog.follows_of_build hbuild hvocabulary
  refine ⟨fun name key hrelationship hkey => ?_, fun name relationship hrelationship => ?_,
    fun policies' catalog' hbuild' hsame => Catalog.build_eq_of_sameNames hbuild hbuild' hsame⟩
  · exact appliesCondition hprotected (hseparate.permits_condition hfollows hkey) hrelationship hkey
  · have hbuilt := Catalog.built_of_build hbuild
    obtain ⟨target, htarget⟩ := hbuilt.target hvocabulary hrelationship
    exact ⟨target, htarget, appliesRelationship hbuilt htree.consistent hprotected
      (hseparate.permits_relationship hfollows hrelationship) hrelationship htarget⟩

/-- The policy of the blog denies a condition and a relationship. The condition is dropped under its other name, and posts pass. -/
theorem apply_of_lists_blog : ∃ start post,
    Catalog.build Registry.standard Catalog.blogSchema.source
      (PolicyLists.ofDefinitions Catalog.blogSchema) = .ok Catalog.blog ∧
    forEntity Catalog.blog "User" true = .ok start ∧
    (∀ params, start.apply Catalog.blog (.mapping [("key_nil", params)]) = .ok start) ∧
    Catalog.blog.vocabulary? "Post" = some post ∧
    AppliesRelationship Catalog.blog start
      (Pass (PolicyLists.ofDefinitions Catalog.blogSchema) "User" ("posts" ∈ ·)) "posts" post ∧
    Pass (PolicyLists.ofDefinitions Catalog.blogSchema) "User" ("posts" ∈ ·) := by
  obtain ⟨user, key, huser, hplain, hposts, hnil, hkey, hnull, hkey'⟩ := exists_blogUser
  have hbuild : Catalog.build Registry.standard Catalog.blogSchema.source
      (PolicyLists.ofDefinitions Catalog.blogSchema) = .ok Catalog.blog := Catalog.ofSchema_blogSchema
  obtain ⟨_, _, _, _, hassembled⟩ := ((Catalog.built_of_build hbuild).describes user
    (Catalog.mem_of_vocabulary? huser)).assembled
  have hstart := forEntity_eq_ok huser true
  obtain ⟨hconditions, hrelationships, _⟩ := apply_of_lists hbuild (.start hstart) rfl
    (hassembled.separate hplain)
  have htree : (fresh user true).entity = "User" := Catalog.entity_of_vocabulary? huser
  obtain ⟨post, hpost, happlies⟩ := hrelationships "posts" _ hposts
  rw [htree] at happlies
  refine ⟨fresh user true, post, hbuild, hstart, (hconditions "key_nil" key hnil hkey).dropped ?_,
    hpost, happlies, (pass_blogUser_iff _).mpr (by decide)⟩
  rw [htree, pass_blogUser_iff, not_not]
  exact ⟨"key_is_null", List.mem_cons_self, hnull, key, hkey', rfl⟩

/-! ### What the lists do not decide -/

/-- Two functions of a text, and one that makes a number of it and has the tokens of both. -/
def shelfModifiers : List Modifier :=
  [Modifier.textFunction "sort" ["s"] "SORT", Modifier.textFunction "key" [] "KEY",
    Modifier.textFunction "sort_key" [] "SORT_KEY" none (some .integer)]

/-- The relationship is called like the canonical name of a condition, which does not resolve. -/
def shelfSchema : Schema where
  definitions := [{ name := "Book", columns := [⟨"title", .text⟩],
                    relationships := [⟨"title_sort_key_contains", "Book"⟩],
                    accessible := some ["title_sort_key_contains"] }]

/-- A condition that no entry of the lists resolves to is set where a relationship with its canonical name is accessible. -/
theorem exists_shelf : ∃ registry catalog book key,
    Registry.build [Kind.contains] shelfModifiers = .ok registry ∧
    Catalog.build registry shelfSchema.source (PolicyLists.ofDefinitions shelfSchema) =
      .ok catalog ∧
    catalog.vocabulary? "Book" = some book ∧
    (∀ relationship ∈ book.relationships, book.resolve? relationship.name = none) ∧
    book.relationship? "title_s_key_contains" = none ∧
    book.resolve? "title_s_key_contains" = some key ∧
    ¬ Pass (PolicyLists.ofDefinitions shelfSchema) "Book" (book.ListsCondition key.name) ∧
    (fresh book true).apply catalog
      (.mapping [("title_s_key_contains", .value (.string "x"))]) ≠ .ok (fresh book true) := by
  let registry : Registry := ⟨[Kind.contains], shelfModifiers⟩
  have hregistry : (Registry.build [Kind.contains] shelfModifiers).toOption = some registry := by
    decide +kernel
  have hread : (Catalog.ofSchema registry shelfSchema).toOption.bind (fun catalog =>
      (catalog.vocabulary? "Book").map fun book =>
        (book.relationships.all fun relationship => (book.resolve? relationship.name).isNone,
          (book.relationship? "title_s_key_contains").isNone,
          (book.relationship? "title_sort_key_contains").isSome,
          (book.resolve? "title_s_key_contains").isSome,
          ((fresh book true).apply catalog
            (.mapping [("title_s_key_contains", .value (.string "x"))])).toOption.map
              (·.conditions.length))) =
      some (true, true, true, true, some 1) := by
    decide +kernel
  obtain ⟨catalog, hcatalog, hread⟩ := Option.bind_eq_some_iff.mp hread
  obtain ⟨book, hbook, hread⟩ := Option.map_eq_some_iff.mp hread
  simp only [Prod.mk.injEq, List.all_eq_true, Option.isNone_iff_eq_none] at hread
  obtain ⟨hplain, hnone, hlisted, hkey, happlied⟩ := hread
  obtain ⟨key, hkey⟩ := Option.isSome_iff_exists.mp hkey
  obtain ⟨relationship, hrelationship⟩ := Option.isSome_iff_exists.mp hlisted
  refine ⟨registry, catalog, book, key, Outcome.toOption_eq_some_iff.mp hregistry,
    Outcome.toOption_eq_some_iff.mp hcatalog, hbook, hplain, hnone, hkey, ?_, fun hsame => ?_⟩
  · have haccessible : PolicyLists.accessibleFor (PolicyLists.ofDefinitions shelfSchema) "Book" =
        some ["title_sort_key_contains"] := by
      decide +kernel
    rw [PolicyLists.pass_iff_of_accessible haccessible (by decide +kernel)]
    rintro ⟨entry, hmem, hentry, _⟩
    rw [List.mem_singleton.mp hmem, hrelationship] at hentry
    cases hentry
  · rw [hsame] at happlied
    cases happlied

/-- Lists do not decide about a condition where a relationship is called like it, and a permitted relationship does not take a scope as it does on a tree without protection. -/
theorem not_forall_apply_of_lists :
    (¬ ∀ (kinds : List Kind) (modifiers : List Modifier) (registry : Registry)
        (source : SchemaSource) (policies : List PolicyLists) (catalog : Catalog)
        (tree : ConditionTree),
      Registry.build kinds modifiers = .ok registry →
      Catalog.build registry source policies = .ok catalog → Reachable catalog tree →
      tree.isProtected = true →
      (∀ relationship ∈ tree.vocabulary.relationships,
        tree.vocabulary.resolve? relationship.name = none) →
      ∀ name key params, tree.vocabulary.relationship? name = none →
        tree.vocabulary.resolve? name = some key →
        ¬ Pass policies tree.entity (tree.vocabulary.ListsCondition key.name) →
        tree.apply catalog (.mapping [(name, params)]) = .ok tree) ∧
    ¬ ∀ (kinds : List Kind) (modifiers : List Modifier) (registry : Registry)
        (source : SchemaSource) (policies : List PolicyLists) (catalog : Catalog)
        (tree : ConditionTree),
      Registry.build kinds modifiers = .ok registry →
      Catalog.build registry source policies = .ok catalog → Reachable catalog tree →
      tree.isProtected = true →
      (∀ relationship ∈ tree.vocabulary.relationships,
        tree.vocabulary.resolve? relationship.name = none) →
      ∀ name relationship params, tree.vocabulary.relationship? name = some relationship →
        Pass policies tree.entity (name ∈ ·) →
        (tree.apply catalog (.mapping [(name, params)])).map cleared =
          tree.cleared.apply catalog (.mapping [(name, params)]) := by
  constructor
  · intro hall
    obtain ⟨registry, catalog, book, key, hregistry, hbuild, hbook, hplain, hnone, hkey, hpass,
      hchanged⟩ := exists_shelf
    have htree : (fresh book true).entity = "Book" := Catalog.entity_of_vocabulary? hbook
    refine hchanged (hall _ _ registry _ _ catalog (fresh book true) hregistry hbuild
      (.start (forEntity_eq_ok hbook true)) rfl hplain _ key _ hnone hkey ?_)
    rw [htree]
    exact hpass
  · intro hall
    obtain ⟨user, _, huser, hplain, hposts, _⟩ := exists_blogUser
    have hstart := forEntity_eq_ok huser true
    have htree : (fresh user true).entity = "User" := Catalog.entity_of_vocabulary? huser
    have hregistry : (Registry.build Kind.standard Modifier.standard).toOption =
        some Registry.standard := by
      decide +kernel
    have hsame := hall _ _ _ _ _ Catalog.blog (fresh user true)
      (Outcome.toOption_eq_some_iff.mp hregistry) Catalog.ofSchema_blogSchema (.start hstart) rfl
      hplain "posts" _ (.value (.string "1 = 1")) hposts
      (by rw [htree]; exact (pass_blogUser_iff _).mpr (by decide))
    have hread : (forEntity Catalog.blog "User" true).toOption.map (fun start =>
        ((start.apply Catalog.blog (.mapping [("posts", .value (.string "1 = 1"))])).isOk,
          (start.cleared.apply Catalog.blog
            (.mapping [("posts", .value (.string "1 = 1"))])).isOk)) = some (false, true) := by
      decide +kernel
    rw [hstart, Except.toOption, Option.map_some, ← hsame] at hread
    obtain ⟨hfails, hworks⟩ := Prod.mk.inj (Option.some.inj hread)
    cases hrun : (fresh user true).apply Catalog.blog
        (.mapping [("posts", .value (.string "1 = 1"))]) with
    | error e =>
      rw [hrun] at hworks
      cases hworks
    | ok tree' =>
      rw [hrun] at hfails
      cases hfails

end ConditionTree

end SearchFilter
