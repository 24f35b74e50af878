import SearchFilter.Catalog
import SearchFilter.Proofs.Vocabulary.Keys
/-!
# Built catalogs

What is known of a catalog that was built: it has one vocabulary for each entity of the schema, in the same order, each was put together from what the schema says of its entity, and every relationship leads to an entity of the schema. Policies are added afterwards and change none of this, so `Catalog.Built` does not mention them.
-/

namespace SearchFilter

namespace Catalog

variable {registry : Registry} {source : SchemaSource} {catalog : Catalog}

/-- The vocabulary was put together from the schema, and its relationships stay inside the schema. -/
structure Describes (registry : Registry) (source : SchemaSource) (vocabulary : Vocabulary) :
    Prop where
  assembled : vocabulary.AssembledFrom registry source
  targets : ∀ relationship ∈ vocabulary.relationships, relationship.entity ∈ source.entities

structure Built (registry : Registry) (source : SchemaSource) (catalog : Catalog) : Prop where
  source_eq : catalog.source = source
  entities_eq : catalog.vocabularies.map (·.entity) = source.entities
  describes : ∀ vocabulary ∈ catalog.vocabularies, Describes registry source vocabulary

/-! ### Entities -/

theorem addEntity_eq_ok_iff {vocabularies vocabularies' : List Vocabulary} {entity : String} :
    addEntity registry source vocabularies entity = .ok vocabularies' ↔
      entity ∉ vocabularies.map (·.entity) ∧
      ∃ vocabulary, Vocabulary.build registry source entity = .ok vocabulary ∧
        (∀ relationship ∈ vocabulary.relationships, relationship.entity ∈ source.entities) ∧
        vocabularies' = vocabularies ++ [vocabulary] := by
  unfold addEntity
  split
  · rename_i hknown
    have hknown : entity ∈ vocabularies.map (·.entity) := by simpa using hknown
    simp only [reduceCtorEq, hknown, not_true_eq_false, false_and]
  · rename_i hnew
    have hnew : entity ∉ vocabularies.map (·.entity) := by simpa using hnew
    rw [Outcome.bind_eq_ok_iff, and_iff_right hnew]
    refine exists_congr fun vocabulary => and_congr_right fun _ => ?_
    split
    · rename_i relationship hfound
      refine iff_of_false (fun h => by cases h) fun h => ?_
      have hmissing := List.find?_some hfound
      simp [h.1 relationship (List.mem_of_find?_eq_some hfound)] at hmissing
    · rename_i htargets
      have htargets : ∀ relationship ∈ vocabulary.relationships,
          relationship.entity ∈ source.entities := by
        simpa using htargets
      rw [and_iff_right htargets, Except.ok.injEq, eq_comm]

theorem addEntity_eq_ok {vocabularies vocabularies' : List Vocabulary} {entity : String}
    (h : addEntity registry source vocabularies entity = .ok vocabularies') :
    ∃ vocabulary, vocabularies' = vocabularies ++ [vocabulary] ∧ vocabulary.entity = entity ∧
      Describes registry source vocabulary := by
  obtain ⟨_, vocabulary, hbuild, htargets, rfl⟩ := addEntity_eq_ok_iff.mp h
  obtain ⟨hentity, hassembled⟩ := Vocabulary.assembledFrom_of_build hbuild
  exact ⟨vocabulary, rfl, hentity, hassembled, htargets⟩

/-- The vocabularies built so far are those of the entities that are not still to come. -/
theorem addEntity_fold {vocabularies : List Vocabulary}
    (h : source.entities.foldlM (addEntity registry source) [] = .ok vocabularies) :
    vocabularies.map (·.entity) = source.entities ∧
      ∀ vocabulary ∈ vocabularies, Describes registry source vocabulary := by
  have hend := Outcome.foldlM_invariant
    (fun rest (built : List Vocabulary) => built.map (·.entity) ++ rest = source.entities ∧
      ∀ vocabulary ∈ built, Describes registry source vocabulary)
    (fun entity rest built built' hbuilt hadd => ?_) ⟨rfl, by simp⟩ h
  · simpa only [List.append_nil] using hend
  · obtain ⟨vocabulary, rfl, rfl, hdescribes⟩ := addEntity_eq_ok hadd
    refine ⟨by simpa using hbuilt.1, fun other hother => ?_⟩
    rcases List.mem_append.mp hother with hold | hnew
    · exact hbuilt.2 other hold
    · rw [List.mem_singleton.mp hnew]
      exact hdescribes

/-! ### Policies -/

theorem Describes.withPolicy {vocabulary : Vocabulary} (h : Describes registry source vocabulary)
    (policy : Policy) : Describes registry source { vocabulary with policy } :=
  ⟨h.assembled.withPolicy policy, h.targets⟩

def givePolicy (entity : String) (policy : Policy) (vocabulary : Vocabulary) : Vocabulary :=
  if vocabulary.entity = entity then { vocabulary with policy } else vocabulary

@[simp] theorem givePolicy_entity (entity : String) (policy : Policy) (vocabulary : Vocabulary) :
    (givePolicy entity policy vocabulary).entity = vocabulary.entity := by
  unfold givePolicy
  split <;> rfl

theorem addPolicy_eq_ok_iff {vocabularies vocabularies' : List Vocabulary} {lists : PolicyLists} :
    addPolicy vocabularies lists = .ok vocabularies' ↔
      (lists.accessible = none ∧ lists.denied = none) ∧ vocabularies' = vocabularies ∨
      ¬(lists.accessible = none ∧ lists.denied = none) ∧
        ∃ vocabulary accessible denied,
          vocabularies.find? (fun vocabulary => vocabulary.entity == lists.entity) =
            some vocabulary ∧
          PolicyLists.canonicalOptional vocabulary lists.accessible = .ok accessible ∧
          PolicyLists.canonicalOptional vocabulary lists.denied = .ok denied ∧
          vocabularies' = vocabularies.map (givePolicy lists.entity { accessible, denied }) := by
  have hlists : (lists.accessible.isNone && lists.denied.isNone) = true ↔
      lists.accessible = none ∧ lists.denied = none := by
    simp only [Bool.and_eq_true, Option.isNone_iff_eq_none]
  unfold addPolicy
  split
  · rename_i hnone
    rw [hlists] at hnone
    simp only [Except.ok.injEq, hnone, and_self, true_and, not_true_eq_false, false_and, or_false,
      eq_comm]
  · rename_i hsome
    rw [hlists] at hsome
    simp only [hsome, false_and, false_or, not_false_eq_true, true_and]
    split
    · rename_i hunknown
      simp only [hunknown, reduceCtorEq, false_and, exists_false]
    · rename_i vocabulary hfound
      simp only [hfound, Option.some.injEq, Outcome.bind_eq_ok_iff, pure, Except.pure,
        Except.ok.injEq, exists_and_left, exists_eq_left', eq_comm (b := vocabularies')]
      rfl

theorem addPolicy_keeps {vocabularies vocabularies' : List Vocabulary} {lists : PolicyLists}
    (h : addPolicy vocabularies lists = .ok vocabularies')
    (hold : ∀ vocabulary ∈ vocabularies, Describes registry source vocabulary) :
    vocabularies'.map (·.entity) = vocabularies.map (·.entity) ∧
      ∀ vocabulary ∈ vocabularies', Describes registry source vocabulary := by
  rcases addPolicy_eq_ok_iff.mp h with ⟨_, rfl⟩ | ⟨_, _, _, _, _, _, _, rfl⟩
  · exact ⟨rfl, hold⟩
  · refine ⟨by simp [Function.comp_def], fun vocabulary hmem => ?_⟩
    obtain ⟨other, hother, rfl⟩ := List.mem_map.mp hmem
    unfold givePolicy
    split
    · exact (hold other hother).withPolicy _
    · exact hold other hother

/-! ### The catalog -/

theorem built_of_build {policies : List PolicyLists}
    (h : build registry source policies = .ok catalog) : catalog.Built registry source := by
  obtain ⟨vocabularies, hentities, h⟩ := Outcome.bind_eq_ok_iff.mp h
  obtain ⟨guarded, hpolicies, h⟩ := Outcome.bind_eq_ok_iff.mp h
  cases h
  have hstart := addEntity_fold hentities
  have hend := Outcome.foldlM_invariant
    (fun _ (built : List Vocabulary) => built.map (·.entity) = source.entities ∧
      ∀ vocabulary ∈ built, Describes registry source vocabulary)
    (fun lists rest built built' hbuilt hadd => ?_) hstart hpolicies
  · exact ⟨rfl, hend.1, hend.2⟩
  · obtain ⟨hentity, hdescribes⟩ := addPolicy_keeps hadd hbuilt.2
    exact ⟨hentity.trans hbuilt.1, hdescribes⟩

theorem mem_of_vocabulary? {entity : String} {vocabulary : Vocabulary}
    (h : catalog.vocabulary? entity = some vocabulary) : vocabulary ∈ catalog.vocabularies :=
  List.mem_of_find?_eq_some h

theorem entity_of_vocabulary? {entity : String} {vocabulary : Vocabulary}
    (h : catalog.vocabulary? entity = some vocabulary) : vocabulary.entity = entity := by
  simpa using List.find?_some h

theorem Built.target (h : catalog.Built registry source) {entity name : String}
    {vocabulary : Vocabulary} {relationship : Relationship}
    (hvocabulary : catalog.vocabulary? entity = some vocabulary)
    (hrelationship : vocabulary.relationship? name = some relationship) :
    ∃ target, catalog.vocabulary? relationship.entity = some target := by
  have hmem := Vocabulary.relationship?_mem hrelationship
  have hknown := (h.describes vocabulary (mem_of_vocabulary? hvocabulary)).targets relationship hmem
  rw [← h.entities_eq] at hknown
  obtain ⟨target, htarget, heq⟩ := List.mem_map.mp hknown
  refine Option.isSome_iff_exists.mp (List.find?_isSome.mpr ⟨target, htarget, ?_⟩)
  exact beq_iff_eq.mpr heq

/-! ### A small catalog

Two entities that lead to each other, and a policy that withholds one condition and one relationship of the first. -/

def blogSchema : Schema where
  definitions := [
    { name := "User", columns := [⟨"key", .binary⟩],
      relationships := [⟨"posts", "Post"⟩, ⟨"drafts", "Post"⟩],
      denied := some ["key_is_null", "drafts"] },
    { name := "Post", relationships := [⟨"author", "User"⟩] }]

def blog : Catalog := (ofSchema Registry.standard blogSchema).toOption.getD ⟨blogSchema.source, []⟩

theorem ofSchema_blogSchema : ofSchema Registry.standard blogSchema = .ok blog := by
  have hok : (ofSchema Registry.standard blogSchema).isOk = true := by decide +kernel
  obtain ⟨catalog, hcatalog⟩ := Outcome.exists_of_isOk hok
  rw [blog, hcatalog]
  rfl

/-- The entities of the catalog and where their relationships lead. -/
theorem blog_vocabularies :
    ∃ user post, blog.vocabulary? "User" = some user ∧ blog.vocabulary? "Post" = some post ∧
      user.relationship? "posts" = some ⟨"posts", "Post"⟩ ∧
      user.relationship? "drafts" = some ⟨"drafts", "Post"⟩ ∧
      post.relationship? "author" = some ⟨"author", "User"⟩ := by
  have hparts : blog.vocabularies.map (fun found => (found.entity, found.relationships)) =
      [("User", [⟨"posts", "Post"⟩, ⟨"drafts", "Post"⟩]), ("Post", [⟨"author", "User"⟩])] := by
    decide +kernel
  obtain ⟨user, rest, hvocabularies, huser, hrest⟩ := List.map_eq_cons_iff.mp hparts
  obtain ⟨post, none, rfl, hpost, hnone⟩ := List.map_eq_cons_iff.mp hrest
  rw [List.map_eq_nil_iff.mp hnone] at hvocabularies
  obtain ⟨huserEntity, huserRelationships⟩ := Prod.mk.inj huser
  obtain ⟨hpostEntity, hpostRelationships⟩ := Prod.mk.inj hpost
  refine ⟨user, post, ?_, ?_, ?_, ?_, ?_⟩
  · simp [vocabulary?, hvocabularies, huserEntity]
  · simp [vocabulary?, hvocabularies, huserEntity, hpostEntity]
  · simp [Vocabulary.relationship?, huserRelationships]
  · simp [Vocabulary.relationship?, huserRelationships]
  · simp [Vocabulary.relationship?, hpostRelationships]

end Catalog

end SearchFilter
