import Mathlib.Data.List.Nodup
import SearchFilter.Proofs.ConditionTree.Invariants
/-!
# One place for each name

At every node of a reachable tree the canonical names of the active conditions are different, and so are the names of the relationships. So a name has one place in its list, and what is stored under the name is stored in this place: the lemmas on `before ++ _ :: after` say so for conditions and for the trees of relationships.
-/

namespace SearchFilter

namespace ConditionTree

variable {catalog : Catalog} {tree tree' child child' : ConditionTree} {name : String}
  {key other : ConditionKey} {v w : Value}

theorem not_mem_map_of_nodup {α β : Type} {f : α → β} {before after : List α} {a : α}
    (h : ((before ++ a :: after).map f).Nodup) : f a ∉ before.map f ∧ f a ∉ after.map f := by
  rw [List.map_append, List.map_cons, List.nodup_middle, List.nodup_cons, List.mem_append,
    not_or] at h
  exact h.1

/-! ### Conditions -/

section Conditions

variable {conditions before after : List (ConditionKey × Value)}

def activeNames (conditions : List (ConditionKey × Value)) : List String :=
  conditions.map fun condition => condition.1.name

theorem activeNames_cons (condition : ConditionKey × Value) :
    activeNames (condition :: conditions) = condition.1.name :: activeNames conditions := rfl

theorem activeNames_store : activeNames (store key v conditions) =
    if key.name ∈ activeNames conditions then activeNames conditions
    else activeNames conditions ++ [key.name] := by
  induction conditions with
  | nil => rfl
  | cons first rest ih =>
    obtain ⟨other, w⟩ := first
    rw [store, activeNames_cons]
    by_cases hname : other.name = key.name
    · simp [activeNames_cons, hname]
    · rw [if_neg hname, activeNames_cons, ih]
      have hne : key.name ≠ other.name := fun heq => hname heq.symm
      by_cases hmem : key.name ∈ activeNames rest
      · simp [hmem]
      · simp [hmem, hne]

theorem store_append_cons (hname : other.name = key.name) (hbefore : key.name ∉ activeNames before) :
    store key v (before ++ (other, w) :: after) = before ++ (other, v) :: after := by
  induction before with
  | nil => rw [List.nil_append, store, if_pos hname, List.nil_append]
  | cons first rest ih =>
    rw [activeNames_cons, List.mem_cons, not_or] at hbefore
    obtain ⟨hfirst, hrest⟩ := hbefore
    rw [List.cons_append, store, if_neg fun heq => hfirst heq.symm, ih hrest, List.cons_append]

theorem store_of_not_mem (hnew : key.name ∉ activeNames conditions) :
    store key v conditions = conditions ++ [(key, v)] := by
  induction conditions with
  | nil => rfl
  | cons first rest ih =>
    rw [activeNames_cons, List.mem_cons, not_or] at hnew
    obtain ⟨hfirst, hrest⟩ := hnew
    rw [store, if_neg fun heq => hfirst heq.symm, ih hrest, List.cons_append]

theorem unset_eq_of_append_cons (htree : tree.conditions = before ++ (other, w) :: after)
    (hnames : (activeNames tree.conditions).Nodup) (hname : other.name = key.name) :
    tree.unset key = { tree with conditions := before ++ after } := by
  rw [htree] at hnames
  obtain ⟨hbefore, hafter⟩ := not_mem_map_of_nodup hnames
  have hkept : ∀ conditions : List (ConditionKey × Value), other.name ∉ activeNames conditions →
      conditions.filter (fun condition => condition.1.name ≠ key.name) = conditions := by
    intro conditions hnot
    refine List.filter_eq_self.mpr fun condition hmem => decide_eq_true fun heq => hnot ?_
    exact List.mem_map.mpr ⟨condition, hmem, heq.trans hname.symm⟩
  have hfilter : tree.conditions.filter (fun condition => condition.1.name ≠ key.name) =
      before ++ after := by
    rw [htree, List.filter_append, List.filter_cons_of_neg (by simp [hname]), hkept before hbefore,
      hkept after hafter]
  rw [← hfilter]
  rfl

end Conditions

/-! ### Relationships -/

section Relations

variable {relations before after : List (String × ConditionTree)}

theorem names_putChild : (putChild name child relations).map (·.1) =
    if name ∈ relations.map (·.1) then relations.map (·.1)
    else relations.map (·.1) ++ [name] := by
  induction relations with
  | nil => rfl
  | cons first rest ih =>
    obtain ⟨other, tree⟩ := first
    rw [putChild, List.map_cons]
    by_cases hname : other = name
    · simp [hname]
    · rw [if_neg hname, List.map_cons, ih]
      have hne : name ≠ other := fun heq => hname heq.symm
      by_cases hmem : name ∈ rest.map (·.1)
      · simp only [hmem, if_true, List.mem_cons, or_true]
      · simp only [hmem, hne, if_false, List.mem_cons, or_self, List.cons_append]

theorem putChild_append_cons (hbefore : name ∉ before.map (·.1)) :
    putChild name child' (before ++ (name, child) :: after) = before ++ (name, child') :: after := by
  induction before with
  | nil => rw [List.nil_append, putChild, if_pos rfl, List.nil_append]
  | cons first rest ih =>
    rw [List.map_cons, List.mem_cons, not_or] at hbefore
    obtain ⟨hfirst, hrest⟩ := hbefore
    rw [List.cons_append, putChild, if_neg fun heq => hfirst heq.symm, ih hrest, List.cons_append]

theorem putChild_of_not_mem (hnew : name ∉ relations.map (·.1)) :
    putChild name child relations = relations ++ [(name, child)] := by
  induction relations with
  | nil => rfl
  | cons first rest ih =>
    rw [List.map_cons, List.mem_cons, not_or] at hnew
    obtain ⟨hfirst, hrest⟩ := hnew
    rw [putChild, if_neg fun heq => hfirst heq.symm, ih hrest, List.cons_append]

theorem lookup_append_cons (hbefore : name ∉ before.map (·.1)) :
    (before ++ (name, child) :: after).lookup name = some child := by
  refine List.lookup_eq_some_iff.mpr ⟨before, after, rfl, fun pair hmem => ?_⟩
  exact bne_iff_ne.mpr fun heq => hbefore (List.mem_map.mpr ⟨pair, hmem, heq.symm⟩)

end Relations

/-! ### Reachable trees -/

structure Unrepeated (tree : ConditionTree) : Prop where
  conditions : (activeNames tree.conditions).Nodup
  relations : (tree.relations.map (·.1)).Nodup

theorem unrepeated_fresh (vocabulary : Vocabulary) (isProtected : Bool) :
    Unrepeated (fresh vocabulary isProtected) :=
  ⟨List.nodup_nil, List.nodup_nil⟩

theorem NodeEdit.unrepeated (h : NodeEdit catalog tree tree') (hold : Unrepeated tree) :
    Unrepeated tree' := by
  cases h with
  | @store name key v w hkey hvalue hcoerce =>
    refine ⟨?_, hold.relations⟩
    rw [activeNames_store]
    split
    · exact hold.conditions
    · rename_i hnew
      rw [← List.concat_eq_append]
      exact hold.conditions.concat hnew
  | unset key =>
    exact ⟨hold.conditions.sublist (List.filter_sublist.map _), hold.relations⟩
  | setScope | clearScope | setProtected => exact ⟨hold.conditions, hold.relations⟩
  | forget name =>
    exact ⟨hold.conditions, hold.relations.sublist (List.filter_sublist.map _)⟩
  | resetAll => exact unrepeated_fresh tree.vocabulary tree.isProtected

theorem unrepeated_invariant : Invariant catalog Unrepeated where
  fresh isProtected _ := unrepeated_fresh _ isProtected
  node := NodeEdit.unrepeated
  withChild {tree child child' name} _ _ hold := by
    refine ⟨hold.conditions, ?_⟩
    rw [withChild, names_putChild]
    split
    · exact hold.relations
    · rename_i hnew
      rw [← List.concat_eq_append]
      exact hold.relations.concat hnew

theorem Reachable.unrepeated (h : Reachable catalog tree) : Everywhere Unrepeated tree :=
  h.everywhere unrepeated_invariant

end ConditionTree

end SearchFilter
