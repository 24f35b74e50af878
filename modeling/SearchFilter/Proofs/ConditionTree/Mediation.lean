import SearchFilter.Proofs.ConditionTree.Invariants
/-!
# Untrusted input is checked everywhere

Two things are never accepted from untrusted input: a text where a mapping is expected, and a mapping with a name that its entity does not know. `Params.Refused` says what they are, and `Params.At` which places count: those that are reached from the top by names of relationships alone. Both speak of entities only. Neither policies nor flags of protection nor the trees that exist occur in them.

Two walks look for such input. One applies, the other screens what a policy withholds, and the first turns into the second anywhere on its way. Each is shown to do the same thing: it treats the input like the part in front of the place, which is what `Params.upTo` leaves of it, and then fails with the error that belongs there. So nothing is accepted, and an error in front of the place is the only thing that can come before.
-/

namespace SearchFilter

namespace Params

/-! ### Places in input -/

/-- Names of relationships lead from input for one entity to input for another. A step of the way is the pairs that are passed and the name that is followed. -/
inductive At (catalog : Catalog) :
    Vocabulary → Params → List (List (String × Params) × String) → Vocabulary → Params → Prop
  | top (vocabulary : Vocabulary) (params : Params) :
      At catalog vocabulary params [] vocabulary params
  | follow {vocabulary next target : Vocabulary} {relationship : Relationship} {name : String}
      {params inner : Params} {before after : List (String × Params)}
      {way : List (List (String × Params) × String)}
      (hrelationship : vocabulary.relationship? name = some relationship)
      (hnext : catalog.vocabulary? relationship.entity = some next)
      (h : At catalog next params way target inner) :
      At catalog vocabulary (.mapping (before ++ (name, params) :: after))
        ((before, name) :: way) target inner

/-- The pairs passed on a way, with other input at its end and nothing behind it. -/
def upTo (front : Params) : List (List (String × Params) × String) → Params
  | [] => front
  | (before, name) :: way => .mapping (before ++ [(name, upTo front way)])

/-- Input that its entity never accepts from an untrusted source, the part of it in front of the first thing to refuse, and the error. -/
inductive Refused (vocabulary : Vocabulary) : Params → Params → ConditionError → Prop
  | scope (s : String) :
      Refused vocabulary (.value (.string s)) (.mapping []) (.injectionRisk vocabulary.entity)
  | unknown {name : String} (params : Params) (before after : List (String × Params))
      (hrelationship : vocabulary.relationship? name = none)
      (hcondition : vocabulary.resolve? name = none) :
      Refused vocabulary (.mapping (before ++ (name, params) :: after)) (.mapping before)
        (.unknownCondition vocabulary.entity name)

end Params

namespace ConditionTree

open Params

variable {catalog : Catalog} {params inner front : Params}
  {way : List (List (String × Params) × String)} {e : ConditionError}

/-! ### Screening -/

theorem screen_mapping (vocabulary : Vocabulary) (pairs : List (String × Params)) :
    screen catalog vocabulary (.mapping pairs) = screenPairs catalog vocabulary pairs := by
  rw [screen]

theorem screen_eq_of_refused {vocabulary : Vocabulary} (h : Refused vocabulary inner front e) :
    screen catalog vocabulary inner = screen catalog vocabulary front >>= fun _ => .error e := by
  cases h with
  | scope s =>
    rw [screen_mapping, screenPairs_nil, Outcome.ok_bind, screen]
  | @unknown name params before after hrelationship hcondition =>
    have hpair : screenPair catalog vocabulary (name, params) =
        .error (.unknownCondition vocabulary.entity name) := by
      simp only [screenPair, hrelationship, hcondition]
    rw [screen_mapping, screen_mapping, screenPairs_append, screenPairs_cons, hpair,
      Outcome.error_bind]

/-- Screening fails at a refused place, unless it fails in front of it. -/
theorem screen_eq_of_at {vocabulary target : Vocabulary}
    (hat : At catalog vocabulary params way target inner) (h : Refused target inner front e) :
    screen catalog vocabulary params =
      screen catalog vocabulary (upTo front way) >>= fun _ => .error e := by
  induction hat with
  | top vocabulary params => exact screen_eq_of_refused h
  | @follow vocabulary next target relationship name params inner before after way hrelationship
      hnext _ ih =>
    have hpair : ∀ below, screenPair catalog vocabulary (name, below) = screen catalog next below :=
      screenPair_of_relationship hrelationship hnext
    rw [upTo, screen_mapping, screen_mapping, screenPairs_append, screenPairs_append,
      screenPairs_cons, screenPairs_cons, screenPairs_nil, hpair, hpair, ih h]
    simp only [bind_assoc, Outcome.error_bind, Outcome.ok_bind]

/-! ### Applying -/

theorem applyParams_mapping {untrusted : Bool} {tree : ConditionTree}
    (huntrusted : (untrusted || tree.isProtected) = true) (pairs : List (String × Params)) :
    applyParams catalog untrusted (.mapping pairs) tree = applyPairs catalog true pairs tree := by
  rw [applyParams, huntrusted]

theorem applyParams_eq_of_refused {untrusted : Bool} {tree : ConditionTree}
    (huntrusted : (untrusted || tree.isProtected) = true)
    (h : Refused tree.vocabulary inner front e) :
    applyParams catalog untrusted inner tree =
      applyParams catalog untrusted front tree >>= fun _ => .error e := by
  generalize hvocabulary : tree.vocabulary = vocabulary at h
  cases h with
  | scope s =>
    rw [applyParams_mapping huntrusted, applyPairs_nil, Outcome.ok_bind, applyParams, huntrusted,
      applyValue, ← hvocabulary]
    rfl
  | @unknown name params before after hrelationship hcondition =>
    rw [applyParams_mapping huntrusted, applyParams_mapping huntrusted, applyPairs_append]
    cases hbefore : applyPairs catalog true before tree with
    | error e' => rw [Outcome.error_bind, Outcome.error_bind]
    | ok next =>
      have hsame : next.vocabulary = vocabulary :=
        (applyPairs_edits before hbefore).vocabulary_eq.trans hvocabulary
      have hresolve : next.resolve name = .error (.unknownCondition vocabulary.entity name) := by
        simp only [resolve, unknown, entity, hsame, hcondition]
      have hpair : applyPair catalog true (name, params) next =
          .error (.unknownCondition vocabulary.entity name) := by
        simp only [applyPair, applyCondition, hsame, hrelationship, hresolve, Outcome.error_bind]
      rw [Outcome.ok_bind, Outcome.ok_bind, applyPairs_cons, hpair, Outcome.error_bind]

/-- Whether a relationship is withheld or followed, an error below it is an error of the pair. -/
theorem applyPair_eq_of_below {tree : ConditionTree} {relationship : Relationship}
    {next : Vocabulary} {name : String} {params front : Params}
    (hconsistent : Everywhere (Consistent catalog) tree)
    (hrelationship : tree.vocabulary.relationship? name = some relationship)
    (hnext : catalog.vocabulary? relationship.entity = some next)
    (hscreen : screen catalog next params = screen catalog next front >>= fun _ => .error e)
    (happly : ∀ child, child.vocabulary = next → Everywhere (Consistent catalog) child →
      applyParams catalog true params child =
        applyParams catalog true front child >>= fun _ => .error e) :
    applyPair catalog true (name, params) tree =
      applyPair catalog true (name, front) tree >>= fun _ => .error e := by
  cases hwithheld : tree.withholds true name with
  | true =>
    simp only [applyPair, hrelationship, hwithheld, if_true, Catalog.vocabulary_eq_ok_iff.mpr hnext,
      Outcome.ok_bind, hscreen, bind_assoc, Outcome.error_bind, pure_bind]
  | false =>
    obtain ⟨child, hchild⟩ := relation_isOk hrelationship hnext
    have hentity := hconsistent.here.relation hrelationship hnext hchild
    have hbelow := happly child hentity (hconsistent.relation consistent_invariant hchild)
    simp only [applyPair, hrelationship, hwithheld, Bool.false_eq_true, if_false, hchild,
      Outcome.ok_bind, hbelow, bind_assoc, Outcome.error_bind, pure_bind]

/-- Applying untrusted input fails at a refused place, unless it fails in front of it. -/
theorem applyParams_eq_of_at {vocabulary target : Vocabulary}
    (hat : At catalog vocabulary params way target inner) (h : Refused target inner front e)
    {untrusted : Bool} {tree : ConditionTree} (hvocabulary : tree.vocabulary = vocabulary)
    (huntrusted : (untrusted || tree.isProtected) = true)
    (hconsistent : Everywhere (Consistent catalog) tree) :
    applyParams catalog untrusted params tree =
      applyParams catalog untrusted (upTo front way) tree >>= fun _ => .error e := by
  induction hat generalizing untrusted tree with
  | top vocabulary params =>
    rw [← hvocabulary] at h
    exact applyParams_eq_of_refused huntrusted h
  | @follow vocabulary next target relationship name params inner before after way hrelationship
      hnext hbelow ih =>
    rw [upTo, applyParams_mapping huntrusted, applyParams_mapping huntrusted, applyPairs_append,
      applyPairs_append]
    cases hbefore : applyPairs catalog true before tree with
    | error e' => rw [Outcome.error_bind, Outcome.error_bind, Outcome.error_bind]
    | ok passed =>
      have hedits := applyPairs_edits before hbefore
      have hsame : passed.vocabulary = vocabulary := hedits.vocabulary_eq.trans hvocabulary
      have hpassed : Everywhere (Consistent catalog) passed :=
        hedits.everywhere consistent_invariant hconsistent
      rw [← hsame] at hrelationship
      have hpair := applyPair_eq_of_below hpassed hrelationship hnext (screen_eq_of_at hbelow h)
        fun child hentity hchild => ih h hentity (Bool.true_or child.isProtected) hchild
      rw [Outcome.ok_bind, Outcome.ok_bind, applyPairs_cons, applyPairs_cons, hpair]
      simp only [bind_assoc, Outcome.error_bind, Outcome.ok_bind, applyPairs_nil]

/-- A protected tree refuses input in which something is refused at any place that relationships lead to, whatever the policies and the flags of the trees below. The tree stays as it is. If what stands in front of the place is accepted, then the error is the one that belongs to the place. -/
theorem apply_refused {tree : ConditionTree} (htree : Reachable catalog tree)
    (hprotected : tree.isProtected = true) {target : Vocabulary}
    (hat : At catalog tree.vocabulary params way target inner) (h : Refused target inner front e) :
    (∃ e', (Change.apply params).runAt catalog [] tree = (tree, .error e')) ∧
      ∀ tree', tree.apply catalog (upTo front way) = .ok tree' →
        (Change.apply params).runAt catalog [] tree = (tree, .error e) := by
  have huntrusted : (false || tree.isProtected) = true := hprotected
  have hequal : (Change.apply params).run catalog tree =
      tree.apply catalog (upTo front way) >>= fun _ => .error e :=
    applyParams_eq_of_at hat h rfl huntrusted htree.consistent
  constructor
  · cases hfront : tree.apply catalog (upTo front way) with
    | error e' =>
      rw [hfront, Outcome.error_bind] at hequal
      exact ⟨e', Change.runAt_nil_of_error hequal⟩
    | ok tree' =>
      rw [hfront, Outcome.ok_bind] at hequal
      exact ⟨e, Change.runAt_nil_of_error hequal⟩
  · intro tree' hfront
    rw [hfront, Outcome.ok_bind] at hequal
    exact Change.runAt_nil_of_error hequal

/-- A scope for the author of drafts, which the policy withholds. -/
theorem apply_refused_blog :
    ∃ tree, forEntity Catalog.blog "User" true = .ok tree ∧
      (Change.apply (.mapping [("key", .value (.string "a")),
        ("drafts", .mapping [("author", .value (.string "1 = 1"))])])).runAt Catalog.blog [] tree =
          (tree, .error (.injectionRisk "User")) := by
  obtain ⟨user, post, huser, hpost, hposts, hdrafts, hauthor⟩ := Catalog.blog_vocabularies
  have hstart := forEntity_eq_ok huser true
  have hfront : (forEntity Catalog.blog "User" true >>= fun tree => tree.apply Catalog.blog
      (.mapping [("key", .value (.string "a")),
        ("drafts", .mapping [("author", .mapping [])])])).isOk = true := by
    decide +kernel
  rw [hstart, Outcome.ok_bind] at hfront
  obtain ⟨tree', htree'⟩ := Outcome.exists_of_isOk hfront
  have hdraft : At Catalog.blog post (.mapping ([] ++ [("author", .value (.string "1 = 1"))]))
      [([], "author")] user (.value (.string "1 = 1")) :=
    .follow hauthor huser (.top user _)
  have hat : At Catalog.blog user (.mapping ([("key", .value (.string "a"))] ++
      [("drafts", .mapping [("author", .value (.string "1 = 1"))])]))
      [([("key", .value (.string "a"))], "drafts"), ([], "author")] user
      (.value (.string "1 = 1")) :=
    .follow hdrafts hpost hdraft
  have hentity := Catalog.entity_of_vocabulary? huser
  have hrefused : Refused user _ _ _ := .scope "1 = 1"
  rw [hentity] at hrefused
  exact ⟨fresh user true, hstart, (apply_refused (.start hstart) rfl hat hrefused).2 tree' htree'⟩

end ConditionTree

end SearchFilter
