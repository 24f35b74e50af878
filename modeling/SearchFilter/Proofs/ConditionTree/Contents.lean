import SearchFilter.Proofs.ConditionTree.Binds
import SearchFilter.Proofs.ConditionTree.Order
import SearchFilter.Proofs.Params.Floats
/-!
# The values in a tree

A property of values that coercion keeps passes from the values of bulk input to those that the tree stores, at every node, if the values that were stored before have it. Finiteness of floating point numbers is such a property, and conditions bind nothing infinite where they store nothing infinite.
-/

namespace SearchFilter

namespace ConditionTree

variable {catalog : Catalog} {tree tree' : ConditionTree} {P : Value → Prop}

def Stores (P : Value → Prop) (node : ConditionTree) : Prop :=
  ∀ key v, (key, v) ∈ node.conditions → P v

/-- Coercion keeps the property, whatever the operation and the type. -/
def KeptByCoercion (catalog : Catalog) (P : Value → Prop) : Prop :=
  ∀ {operation : Operation} {type : SemanticType} {v w : Value}, P v →
    operation.coerce catalog.source.parseTemporal type v = .ok w → P w

theorem Stores.unset (h : Stores P tree) (key : ConditionKey) : Stores P (tree.unset key) :=
  fun other v hmem => h other v (List.mem_filter.mp hmem).1

theorem Stores.assign (hP : KeptByCoercion catalog P) (hold : Stores P tree) {key : ConditionKey}
    {v : Value} (hv : P v) (h : tree.assign catalog key v = .ok tree') :
    Stores P tree' ∧ tree'.relations = tree.relations := by
  unfold ConditionTree.assign at h
  split at h
  · cases h
    exact ⟨hold.unset key, rfl⟩
  · split at h
    · rename_i w hcoerce
      cases h
      refine ⟨fun other u hmem => ?_, rfl⟩
      rcases mem_store hmem with hmem | ⟨rfl, _⟩
      · exact hold other u hmem
      · exact hP hv hcoerce
    · cases h

theorem Stores.applyCondition (hP : KeptByCoercion catalog P) (hold : Stores P tree)
    {untrusted : Bool} {name : String} {params : Params} (hparams : params.Every P)
    (h : tree.applyCondition catalog untrusted name params = .ok tree') :
    Stores P tree' ∧ tree'.relations = tree.relations := by
  obtain ⟨key, _, h⟩ := Outcome.bind_eq_ok_iff.mp h
  split at h
  · cases h
    exact ⟨hold, rfl⟩
  · split at h
    · cases h
    · cases hparams with
      | value hv =>
        split at h
        · cases h
          exact ⟨hold.unset key, rfl⟩
        · exact hold.assign hP hv h
    · cases hparams with
      | value hv => exact hold.assign hP hv h

theorem Everywhere.relation_stores {child : ConditionTree} {name : String}
    (h : Everywhere (Stores P) tree) (hchild : tree.relation catalog name = .ok child) :
    Everywhere (Stores P) child :=
  h.relation_of_fresh (fun _ _ _ _ _ hmem => absurd hmem List.not_mem_nil) hchild

theorem inputRelation_stores (hP : KeptByCoercion catalog P) :
    InputRelation catalog (Params.Every P)
      (fun _ tree tree' => Everywhere (Stores P) tree → Everywhere (Stores P) tree') where
  parts h hpair := by
    cases h with
    | mapping h => exact h _ hpair
  refl _ _ hold := hold
  trans h h' hold := h' (h hold)
  weaken h := h
  value _ h hold := by
    obtain ⟨hconditions, hrelations⟩ := applyValue_lists h
    have hstores : Stores P _ := fun key v hmem => hold.here key v (hconditions ▸ hmem)
    exact hold.replace hstores fun pair hpair => hrelations ▸ hpair
  condition hparams h hold := by
    obtain ⟨hstores, hrelations⟩ := hold.here.applyCondition hP hparams h
    exact hold.replace hstores fun pair hpair => hrelations ▸ hpair
  below _ hchild h hold := hold.put hold.here (h (hold.relation_stores hchild))

/-! ### Finite numbers -/

/-- Bulk input without infinite numbers brings none into a tree that has none, and then none are bound. -/
theorem floatsFinite_of_apply {params : Params} (hparams : params.Every Value.FloatsFinite)
    (hold : Everywhere (Stores Value.FloatsFinite) tree) (h : tree.apply catalog params = .ok tree') :
    ∀ bind ∈ tree'.compile.binds, bind.FloatsFinite := by
  have hkept : KeptByCoercion catalog Value.FloatsFinite := fun hv h => hv.coerce h
  have hstores := (inputRelation_stores hkept).applyParams params hparams h hold
  refine binds_induction (hstores.imp fun node hnode key v hmem bind hbind => ?_)
  exact ConditionKey.floatsFinite_of_mem_compile (hnode key v hmem) hbind

end ConditionTree

end SearchFilter
