import SearchFilter.Proofs.Catalog.Declarations
import SearchFilter.Proofs.ConditionTree.Navigation
/-!
# Which declaration of a relationship counts

A relationship is looked up by its name, and the first declaration of the name is found. At every node of every tree it leads to the entity it was declared with. A declaration behind it repeats it or is never followed: the name leads to the entity of the first. So all declarations of an entity can be followed exactly if no name is declared for two entities, which building does not ask for.
-/

namespace SearchFilter

namespace ConditionTree

variable {registry : Registry} {source : SchemaSource} {catalog : Catalog} {node : ConditionTree}
  {relationship first : Relationship} {declarations : List Relationship}

/-- Following the relationship leads to a tree of the entity that it was declared with. -/
def LeadsTo (catalog : Catalog) (node : ConditionTree) (relationship : Relationship) : Prop :=
  ∃ child, node.relation catalog relationship.name = .ok child ∧
    child.entity = relationship.entity

/-- What a node makes of the relationships that are declared for its entity. -/
structure FollowsDeclarations (catalog : Catalog) (declarations : List Relationship)
    (node : ConditionTree) : Prop where
  first : ∀ before relationship after, declarations = before ++ relationship :: after →
    (∀ other ∈ before, other.name ≠ relationship.name) → LeadsTo catalog node relationship
  /-- Behind the first declaration of a name only those with its entity hold. -/
  again : ∀ before relationship after, declarations = before ++ relationship :: after →
    (∀ other ∈ before, other.name ≠ relationship.name) →
    ∀ again ∈ after, again.name = relationship.name →
      (LeadsTo catalog node again ↔ again.entity = relationship.entity)
  /-- All of them hold exactly if no name is declared for two entities. -/
  all_iff : (∀ relationship ∈ declarations, LeadsTo catalog node relationship) ↔
    ∀ relationship ∈ declarations, ∀ other ∈ declarations,
      relationship.name = other.name → relationship.entity = other.entity

theorem leadsTo_iff (hbuilt : catalog.Built registry source) (h : Consistent catalog node)
    (hfirst : node.vocabulary.relationship? relationship.name = some first) :
    LeadsTo catalog node relationship ↔ relationship.entity = first.entity := by
  obtain ⟨target, htarget⟩ := hbuilt.target h.vocabulary hfirst
  obtain ⟨child, hchild⟩ := relation_isOk hfirst htarget
  have hentity : child.entity = first.entity := by
    rw [entity, h.relation hfirst htarget hchild, Catalog.entity_of_vocabulary? htarget]
  constructor
  · rintro ⟨other, hother, heq⟩
    cases hchild.symm.trans hother
    rw [← heq, hentity]
  · exact fun heq => ⟨child, hchild, hentity.trans heq.symm⟩

theorem find?_first {before after : List Relationship}
    (hdeclarations : declarations = before ++ relationship :: after)
    (hfirst : ∀ other ∈ before, other.name ≠ relationship.name) :
    declarations.find? (fun other => other.name == relationship.name) = some relationship := by
  rw [List.find?_eq_some_iff_append]
  exact ⟨beq_self_eq_true _, before, after, hdeclarations, fun other hother => by
    simpa using hfirst other hother⟩

theorem followsDeclarations (hbuilt : catalog.Built registry source)
    (h : Consistent catalog node) :
    FollowsDeclarations catalog (source.declared node.entity) node := by
  obtain ⟨_, _, _, _, hassembled⟩ := h.assembled hbuilt
  have hdeclared : node.vocabulary.relationships = source.declared node.entity :=
    hassembled.relationships_eq
  have hfind : ∀ name, node.vocabulary.relationship? name =
      (source.declared node.entity).find? fun other => other.name == name := by
    intro name
    rw [Vocabulary.relationship?, hdeclared]
  constructor
  · intro before relationship after hsplit hfirst
    exact (leadsTo_iff hbuilt h ((hfind _).trans (find?_first hsplit hfirst))).mpr rfl
  · intro before relationship after hsplit hfirst again _ hname
    refine leadsTo_iff hbuilt h ?_
    rw [hname, hfind]
    exact find?_first hsplit hfirst
  · constructor
    · intro hall relationship hmem other hother hname
      obtain ⟨child, hchild, hentity⟩ := hall relationship hmem
      obtain ⟨child', hchild', hentity'⟩ := hall other hother
      rw [hname, hchild'] at hchild
      cases hchild
      exact hentity.symm.trans hentity'
    · intro hsame relationship hmem
      have hfound : (node.vocabulary.relationship? relationship.name).isSome = true := by
        rw [hfind, List.find?_isSome]
        exact ⟨relationship, hmem, beq_self_eq_true _⟩
      obtain ⟨first, hfirst⟩ := Option.isSome_iff_exists.mp hfound
      have hmem' : first ∈ source.declared node.entity :=
        hdeclared ▸ Vocabulary.relationship?_mem hfirst
      have hname : first.name = relationship.name := by simpa using List.find?_some hfirst
      exact (leadsTo_iff hbuilt h hfirst).mpr (hsame relationship hmem first hmem' hname.symm)

/-- Declaring a name again, for whatever entity, has no influence on building, and in every tree that is made afterwards the first declaration of the name counts. -/
theorem followsDeclarations_of_reachable (registry : Registry) (source : SchemaSource)
    (policies : List PolicyLists) :
    (∀ entity relationship target, relationship ∈ source.declared entity →
      target ∈ source.entities →
      ((∃ catalog, Catalog.build registry (source.declare entity ⟨relationship.name, target⟩)
          policies = .ok catalog) ↔
        ∃ catalog, Catalog.build registry source policies = .ok catalog)) ∧
    ∀ catalog tree path node, Catalog.build registry source policies = .ok catalog →
      Reachable catalog tree → tree.descendant? path = some node →
      FollowsDeclarations catalog (source.declared node.entity) node := by
  constructor
  · intro entity relationship target hmem htarget
    exact Catalog.exists_build_declare_iff hmem rfl htarget
  · intro catalog tree path node hbuild htree hnode
    exact followsDeclarations (Catalog.built_of_build hbuild)
      (htree.consistent.descendant? hnode).here

/-! ### A name that is declared for two entities -/

def forumSchema : Schema where
  definitions := [
    { name := "Topic", relationships := [⟨"answers", "Post"⟩, ⟨"answers", "User"⟩] },
    { name := "Post" }, { name := "User" }]

theorem exists_forum : ∃ catalog topic,
    Catalog.ofSchema Registry.standard forumSchema = .ok catalog ∧
    forEntity catalog "Topic" true = .ok topic ∧ topic.entity = "Topic" := by
  have hparts : (Catalog.ofSchema Registry.standard forumSchema).toOption.bind (fun catalog =>
      (forEntity catalog "Topic" true).toOption.map entity) = some "Topic" := by
    decide +kernel
  obtain ⟨catalog, hcatalog, hparts⟩ := Option.bind_eq_some_iff.mp hparts
  obtain ⟨topic, htopic, hentity⟩ := Option.map_eq_some_iff.mp hparts
  exact ⟨catalog, topic, Outcome.toOption_eq_some_iff.mp hcatalog,
    Outcome.toOption_eq_some_iff.mp htopic, hentity⟩

/-- The answers of a topic are posts, and the second declaration, for users, is never followed. A third one for topics could be added. -/
theorem followsDeclarations_of_reachable_forum : ∃ catalog topic,
    Catalog.ofSchema Registry.standard forumSchema = .ok catalog ∧
    forEntity catalog "Topic" true = .ok topic ∧
    LeadsTo catalog topic ⟨"answers", "Post"⟩ ∧ ¬ LeadsTo catalog topic ⟨"answers", "User"⟩ ∧
    ∃ catalog', Catalog.build Registry.standard
      (forumSchema.source.declare "Topic" ⟨"answers", "Topic"⟩)
      (forumSchema.definitions.map fun definition =>
        { entity := definition.name, accessible := definition.accessible,
          denied := definition.denied }) = .ok catalog' := by
  obtain ⟨catalog, topic, hbuild, htopic, hentity⟩ := exists_forum
  have hdeclared : forumSchema.source.declared topic.entity =
      [] ++ ⟨"answers", "Post"⟩ :: [⟨"answers", "User"⟩] := by
    rw [hentity]
    decide
  obtain ⟨hdeclare, hfollows⟩ := followsDeclarations_of_reachable Registry.standard
    forumSchema.source (forumSchema.definitions.map fun definition =>
      { entity := definition.name, accessible := definition.accessible,
        denied := definition.denied })
  have hnode := hfollows catalog topic [] topic hbuild (.start htopic) rfl
  refine ⟨catalog, topic, hbuild, htopic, hnode.first _ _ _ hdeclared (by simp), fun husers => ?_,
    (hdeclare "Topic" ⟨"answers", "Post"⟩ "Topic" (by decide) (by decide)).mpr ⟨catalog, hbuild⟩⟩
  have hsame := (hnode.again _ _ _ hdeclared (by simp) ⟨"answers", "User"⟩
    (List.mem_singleton.mpr rfl) rfl).mp husers
  exact absurd hsame (by decide)

/-- A relationship that is declared need not be the one that is followed, and a schema with two declarations of one name can be built. -/
theorem not_forall_leadsTo :
    (¬ ∀ (registry : Registry) (source : SchemaSource) (policies : List PolicyLists)
      (catalog : Catalog) (entity : String) (isProtected : Bool) (tree : ConditionTree),
      Catalog.build registry source policies = .ok catalog →
      forEntity catalog entity isProtected = .ok tree →
      ∀ relationship ∈ source.declared entity, LeadsTo catalog tree relationship) ∧
    ¬ ∀ (registry : Registry) (source : SchemaSource) (policies : List PolicyLists)
      (entity : String), entity ∈ source.entities →
      (∃ relationship ∈ source.declared entity, ∃ other ∈ source.declared entity,
        relationship.name = other.name ∧ relationship.entity ≠ other.entity) →
      ∀ catalog, Catalog.build registry source policies ≠ .ok catalog := by
  obtain ⟨catalog, topic, hbuild, htopic, _⟩ := exists_forum
  constructor
  · intro hall
    have hleads := hall _ _ _ catalog "Topic" true topic hbuild htopic
    obtain ⟨posts, hposts, hpost⟩ := hleads ⟨"answers", "Post"⟩ (by decide)
    obtain ⟨users, husers, huser⟩ := hleads ⟨"answers", "User"⟩ (by decide)
    cases hposts.symm.trans husers
    exact absurd (hpost.symm.trans huser) (by decide)
  · intro hnever
    exact hnever Registry.standard forumSchema.source _ "Topic" (by decide)
      ⟨⟨"answers", "Post"⟩, by decide, ⟨"answers", "User"⟩, by decide, rfl, by decide⟩ catalog hbuild

end ConditionTree

end SearchFilter
