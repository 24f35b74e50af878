import SearchFilter.Proofs.Catalog.Built
import SearchFilter.Proofs.ConditionTree.Pairs
import SearchFilter.Proofs.Vocabulary.Enumerated
/-!
# Ways to one condition

A condition can be assigned and read, and `reset` and bulk input reach it by the same names. These two look for a relationship first, the others never do, so they agree only on names that are not both. Building a vocabulary refuses relationships with an enumerated name. A relationship may still have a name that is read with modifiers, such as `name_lower_contains`, and on such a name they disagree.
-/

namespace SearchFilter

namespace ConditionTree

variable {catalog : Catalog} {tree tree' : ConditionTree} {name : String} {key : ConditionKey}

/-! ### Agreement -/

def blankToNull : Value → Value
  | .string s => if s.isEmpty then .null else .string s
  | v => v

/-- If the name is that of a condition, `reset` and bulk input concern that condition as assigning does, apart from what the policy withholds. If it is not, neither assigning and reading nor `reset` and bulk input concern any condition. -/
structure Agree (catalog : Catalog) (tree : ConditionTree) (name : String) : Prop where
  reset : ∀ key, tree.vocabulary.resolve? name = some key → tree.reset name = .ok (tree.unset key)
  apply : ∀ key v, tree.vocabulary.resolve? name = some key →
    tree.apply catalog (.mapping [(name, .value v)]) =
      if tree.withholds tree.isProtected key.name then .ok tree
      else tree.set catalog name (blankToNull v)
  refused : tree.vocabulary.resolve? name = none → tree.get name = .error (tree.unknown name) ∧
    ∀ v, tree.set catalog name v = .error (tree.unknown name)
  reset_keeps : tree.vocabulary.resolve? name = none →
    ∀ tree', tree.reset name = .ok tree' → tree'.conditions = tree.conditions
  apply_keeps : tree.vocabulary.resolve? name = none →
    ∀ v tree', tree.apply catalog (.mapping [(name, .value v)]) = .ok tree' →
      tree'.conditions = tree.conditions

theorem resolve_eq_error (h : tree.vocabulary.resolve? name = none) :
    tree.resolve name = .error (tree.unknown name) := by
  rw [resolve, h]

theorem apply_singleton (params : Params) :
    tree.apply catalog (.mapping [(name, params)]) =
      applyPair catalog tree.isProtected (name, params) tree := by
  rw [ConditionTree.apply, applyParams, Bool.false_or, applyPairs_singleton]

/-- Bulk input assigns a value like any other, with null for the empty text. -/
theorem applyCondition_value {untrusted : Bool} (hkey : tree.vocabulary.resolve? name = some key)
    (v : Value) :
    tree.applyCondition catalog untrusted name (.value v) =
      if tree.withholds untrusted key.name then .ok tree
      else tree.set catalog name (blankToNull v) := by
  have hresolve := resolve_eq_ok_iff.mpr hkey
  unfold applyCondition set
  rw [hresolve, Outcome.ok_bind, Outcome.ok_bind]
  split
  · rfl
  · cases v with
    | string s =>
      by_cases hempty : s.isEmpty
      · simp only [hempty, if_true, blankToNull, assign, Value.isNull]
      · simp only [hempty, Bool.false_eq_true, if_false, blankToNull]
    | null | bool | integer | float | timestamp | array => rfl

theorem applyPair_conditions {untrusted : Bool} {params : Params}
    (hnone : tree.vocabulary.resolve? name = none)
    (h : applyPair catalog untrusted (name, params) tree = .ok tree') :
    tree'.conditions = tree.conditions := by
  unfold applyPair at h
  split at h
  · split at h
    · obtain ⟨_, _, h⟩ := Outcome.bind_eq_ok_iff.mp h
      obtain ⟨_, _, h⟩ := Outcome.bind_eq_ok_iff.mp h
      cases h
      rfl
    · obtain ⟨child, _, h⟩ := Outcome.bind_eq_ok_iff.mp h
      obtain ⟨child', _, h⟩ := Outcome.bind_eq_ok_iff.mp h
      cases h
      rfl
  · unfold applyCondition at h
    rw [resolve_eq_error hnone] at h
    cases h

theorem reset_conditions (hnone : tree.vocabulary.resolve? name = none)
    (h : tree.reset name = .ok tree') : tree'.conditions = tree.conditions := by
  unfold ConditionTree.reset at h
  split at h
  · cases h
    rfl
  · rw [resolve_eq_error hnone] at h
    cases h

/-- All ways agree on a name that is not both that of a relationship and that of a condition. -/
theorem agree_of_or (h : tree.vocabulary.relationship? name = none ∨
    tree.vocabulary.resolve? name = none) : Agree catalog tree name where
  reset key hkey := by
    have hrelationship := h.resolve_right (by rw [hkey]; exact Option.some_ne_none key)
    rw [ConditionTree.reset, hrelationship, resolve_eq_ok_iff.mpr hkey]
    rfl
  apply key v hkey := by
    have hrelationship := h.resolve_right (by rw [hkey]; exact Option.some_ne_none key)
    rw [apply_singleton, applyPair, hrelationship]
    exact applyCondition_value hkey v
  refused hnone := by
    refine ⟨?_, fun v => ?_⟩
    · rw [ConditionTree.get, resolve_eq_error hnone]
      rfl
    · rw [ConditionTree.set, resolve_eq_error hnone]
      rfl
  reset_keeps hnone tree' hreset := reset_conditions hnone hreset
  apply_keeps hnone v tree' happly := by
    rw [apply_singleton] at happly
    exact applyPair_conditions hnone happly

theorem not_agree {relationship : Relationship}
    (hrelationship : tree.vocabulary.relationship? name = some relationship)
    (hkey : tree.vocabulary.resolve? name = some key) {v : Value}
    (hactive : (key, v) ∈ tree.conditions) : ¬ Agree catalog tree name := by
  intro h
  have hreset := h.reset key hkey
  rw [ConditionTree.reset, hrelationship, Except.ok.injEq] at hreset
  have hconditions : tree.conditions = (tree.unset key).conditions := by rw [← hreset]
  rw [hconditions] at hactive
  exact absurd (List.mem_filter.mp hactive).2 (by simp)

/-! ### Names of relationships -/

variable {registry : Registry} {source : SchemaSource} {policies : List PolicyLists}
  {entity : String} {vocabulary : Vocabulary}

/-- No relationship has the name of a condition, and all ways to a condition agree, exactly if no relationship has a name that is read with modifiers. -/
theorem agree_iff (hbuild : Catalog.build registry source policies = .ok catalog)
    (hvocabulary : catalog.vocabulary? entity = some vocabulary) :
    ((∀ relationship ∈ vocabulary.relationships, vocabulary.resolve? relationship.name = none) ↔
        ∀ relationship ∈ vocabulary.relationships,
          Vocabulary.resolveModified? registry vocabulary.columns relationship.name = none) ∧
      ((∀ tree : ConditionTree, tree.vocabulary = vocabulary → ∀ name, Agree catalog tree name) ↔
        ∀ relationship ∈ vocabulary.relationships,
          Vocabulary.resolveModified? registry vocabulary.columns relationship.name = none) := by
  obtain ⟨table, columns, _, _, hassembled⟩ := ((Catalog.built_of_build hbuild).describes vocabulary
    (Catalog.mem_of_vocabulary? hvocabulary)).assembled
  have hnames : ∀ relationship ∈ vocabulary.relationships,
      vocabulary.resolve? relationship.name =
        Vocabulary.resolveModified? registry vocabulary.columns relationship.name :=
    fun relationship hmem => hassembled.resolve?_relationship hmem
  constructor
  · exact ⟨fun h relationship hmem => (hnames relationship hmem).symm.trans (h relationship hmem),
      fun h relationship hmem => (hnames relationship hmem).trans (h relationship hmem)⟩
  · constructor
    · intro hagree relationship hmem
      by_contra hread
      obtain ⟨key, hkey⟩ := Option.ne_none_iff_exists'.mp hread
      rw [← hnames relationship hmem] at hkey
      obtain ⟨other, hother⟩ : ∃ other, vocabulary.relationship? relationship.name = some other :=
        Option.isSome_iff_exists.mp
          (List.find?_isSome.mpr ⟨relationship, hmem, beq_self_eq_true relationship.name⟩)
      let tree : ConditionTree := { fresh vocabulary false with conditions := [(key, .null)] }
      have hactive : (key, Value.null) ∈ tree.conditions := List.mem_singleton.mpr rfl
      have hother' : tree.vocabulary.relationship? relationship.name = some other := hother
      have hkey' : tree.vocabulary.resolve? relationship.name = some key := hkey
      exact not_agree hother' hkey' hactive (hagree tree rfl relationship.name)
    · rintro hplain tree rfl name
      refine agree_of_or ?_
      cases hrelationship : tree.vocabulary.relationship? name with
      | none => exact .inl rfl
      | some relationship =>
        have hmem := Vocabulary.relationship?_mem hrelationship
        have hname : relationship.name = name := by simpa using List.find?_some hrelationship
        rw [← hname, hnames relationship hmem]
        exact .inr (hplain relationship hmem)

theorem agree_iff_blog : ∃ user, Catalog.blog.vocabulary? "User" = some user ∧
    user.relationship? "posts" = some ⟨"posts", "Post"⟩ ∧
    (∀ relationship ∈ user.relationships, user.resolve? relationship.name = none) ∧
    ∀ tree : ConditionTree, tree.vocabulary = user → ∀ name, Agree Catalog.blog tree name := by
  obtain ⟨user, _, huser, _, hposts, _⟩ := Catalog.blog_vocabularies
  have hread : ∀ vocabulary ∈ Catalog.blog.vocabularies,
      ∀ relationship ∈ vocabulary.relationships, Vocabulary.resolveModified? Registry.standard
        vocabulary.columns relationship.name = none := by
    decide +kernel
  have hplain := hread user (Catalog.mem_of_vocabulary? huser)
  have hagree := agree_iff Catalog.ofSchema_blogSchema huser
  exact ⟨user, huser, hposts, hagree.1.mpr hplain, hagree.2.mpr hplain⟩

def accountSchema : Schema where
  definitions := [{ name := "Account", columns := [⟨"name", .text⟩],
                    relationships := [⟨"name_lower_contains", "Account"⟩] }]

/-- A name can be that of a relationship and that of a condition. -/
theorem not_forall_resolve?_relationship : ¬ ∀ (registry : Registry) (source : SchemaSource)
    (policies : List PolicyLists) (catalog : Catalog) (entity : String) (vocabulary : Vocabulary),
    Catalog.build registry source policies = .ok catalog →
    catalog.vocabulary? entity = some vocabulary →
    ∀ relationship ∈ vocabulary.relationships, vocabulary.resolve? relationship.name = none := by
  intro hall
  have hparts : (Catalog.ofSchema Registry.standard accountSchema).toOption.map (fun catalog =>
      (catalog.vocabulary? "Account").map fun vocabulary => (vocabulary.relationships,
        (vocabulary.resolve? "name_lower_contains").isSome)) =
      some (some ([⟨"name_lower_contains", "Account"⟩], true)) := by decide +kernel
  obtain ⟨catalog, hbuild, hparts⟩ := Option.map_eq_some_iff.mp hparts
  obtain ⟨vocabulary, hvocabulary, hparts⟩ := Option.map_eq_some_iff.mp hparts
  obtain ⟨hrelationships, hkey⟩ := Prod.mk.inj hparts
  have hnone := hall _ _ _ catalog "Account" vocabulary
    (Outcome.toOption_eq_some_iff.mp hbuild) hvocabulary ⟨"name_lower_contains", "Account"⟩
    (by rw [hrelationships]; exact List.mem_singleton.mpr rfl)
  rw [hnone] at hkey
  cases hkey

end ConditionTree

end SearchFilter
