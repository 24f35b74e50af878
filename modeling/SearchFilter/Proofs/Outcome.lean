/-!
# Steps that may fail

What follows from the success of several steps in a row: each of them succeeded. A fold of such steps keeps what every single step keeps, and the invariant may speak of the elements that are still to come.
-/

namespace SearchFilter

namespace Outcome

variable {ε α β : Type}

@[simp] theorem ok_bind (a : α) (f : α → Except ε β) : (Except.ok a >>= f) = f a := rfl

@[simp] theorem error_bind (e : ε) (f : α → Except ε β) : (Except.error e >>= f) = Except.error e :=
    rfl

theorem bind_eq_ok_iff {x : Except ε α} {f : α → Except ε β} {b : β} :
    (x >>= f) = .ok b ↔ ∃ a, x = .ok a ∧ f a = .ok b := by
  cases x with
  | error e => simp only [error_bind, reduceCtorEq, false_and, exists_false]
  | ok a => simp only [ok_bind, Except.ok.injEq, exists_eq_left']

theorem map_eq_ok_iff {x : Except ε α} {f : α → β} {b : β} :
    x.map f = .ok b ↔ ∃ a, x = .ok a ∧ f a = b := by
  cases x with
  | error e => simp only [Except.map, reduceCtorEq, false_and, exists_false]
  | ok a => simp only [Except.map, Except.ok.injEq, exists_eq_left']

@[simp] theorem map_ok (a : α) (f : α → β) : (Except.ok a : Except ε α).map f = .ok (f a) := rfl

@[simp] theorem map_error (e : ε) (f : α → β) : (Except.error e : Except ε α).map f = .error e :=
    rfl

theorem map_bind {γ : Type} (x : Except ε α) (f : α → Except ε β) (g : β → γ) :
    (x >>= f).map g = x >>= fun a => (f a).map g := by
  cases x <;> rfl

/-- Steps that do the same to related states do the same one after another. -/
theorem map_bind_of_map {α' β' : Type} {x : Except ε α} {f : α → Except ε β}
    {f' : α' → Except ε β'} {g : α → α'} {g' : β → β'}
    (h : ∀ a, x = .ok a → (f a).map g' = f' (g a)) : (x >>= f).map g' = x.map g >>= f' := by
  cases x with
  | error e => rfl
  | ok a => exact h a rfl

theorem foldlM_invariant {f : β → α → Except ε β} (I : List α → β → Prop)
    (hstep : ∀ a rest b b', I (a :: rest) b → f b a = .ok b' → I rest b')
    {l : List α} {b b' : β} (hstart : I l b) (hfold : l.foldlM f b = .ok b') : I [] b' := by
  induction l generalizing b with
  | nil =>
    cases hfold
    exact hstart
  | cons a rest ih =>
    rw [List.foldlM_cons, bind_eq_ok_iff] at hfold
    obtain ⟨middle, hfirst, hrest⟩ := hfold
    exact ih (hstep a rest b middle hstart hfirst) hrest

/-- A fold whose state is seen through a view does what the fold of the views does, as long as the invariant that each step needs is kept. -/
theorem map_foldlM {γ : Type} {f : β → α → Except ε β} {g : γ → α → Except ε γ} {view : β → γ}
    (I : β → Prop) (hview : ∀ b a, I b → (f b a).map view = g (view b) a)
    (hstep : ∀ b a b', I b → f b a = .ok b' → I b') (l : List α) {b : β} (hstart : I b) :
    (l.foldlM f b).map view = l.foldlM g (view b) := by
  induction l generalizing b with
  | nil => rfl
  | cons a rest ih =>
    rw [List.foldlM_cons, List.foldlM_cons, ← hview b a hstart]
    exact map_bind_of_map fun b' hb' => ih (hstep b a b' hstart hb')

/-- A fold succeeds exactly if every element is admitted, by itself and beside each of those before it. -/
theorem exists_foldlM_iff {f : β → α → Except ε β} (I : List α → β → Prop) {P : α → Prop}
    {R : α → α → Prop}
    (hadmits : ∀ done b a, I done b →
      ((∃ b', f b a = .ok b') ↔ P a ∧ ∀ other ∈ done, R other a))
    (hstep : ∀ done a b b', I done b → f b a = .ok b' → I (done ++ [a]) b')
    {b : β} (hstart : I [] b) (l : List α) :
    (∃ b', l.foldlM f b = .ok b') ↔ (∀ a ∈ l, P a) ∧ l.Pairwise R := by
  -- for the induction some elements are there already
  have hrest : ∀ (l done : List α) (b : β), I done b → ((∃ b', l.foldlM f b = .ok b') ↔
      (∀ a ∈ l, P a ∧ ∀ other ∈ done, R other a) ∧ l.Pairwise R) := by
    intro l
    induction l with
    | nil => exact fun done b _ => iff_of_true ⟨b, rfl⟩ ⟨by simp, .nil⟩
    | cons a rest ih =>
      intro done b hdone
      simp only [List.foldlM_cons, bind_eq_ok_iff, List.forall_mem_cons, List.pairwise_cons]
      rw [← hadmits done b a hdone]
      constructor
      · rintro ⟨last, middle, hfirst, hlast⟩
        obtain ⟨hadmitted, hpairwise⟩ :=
          (ih (done ++ [a]) middle (hstep done a b middle hdone hfirst)).mp ⟨last, hlast⟩
        simp only [List.mem_append, List.mem_singleton] at hadmitted
        refine ⟨⟨⟨middle, hfirst⟩, fun c hc => ?_⟩, fun c hc => ?_, hpairwise⟩
        · exact ⟨(hadmitted c hc).1, fun other hother => (hadmitted c hc).2 other (.inl hother)⟩
        · exact (hadmitted c hc).2 a (.inr rfl)
      · rintro ⟨⟨⟨middle, hfirst⟩, hadmitted⟩, hbeside, hpairwise⟩
        have hlater : ∀ c ∈ rest, P c ∧ ∀ other ∈ done ++ [a], R other c := by
          intro c hc
          refine ⟨(hadmitted c hc).1, fun other hother => ?_⟩
          rcases List.mem_append.mp hother with hother | hother
          · exact (hadmitted c hc).2 other hother
          · rw [List.mem_singleton.mp hother]
            exact hbeside c hc
        obtain ⟨last, hlast⟩ :=
          (ih (done ++ [a]) middle (hstep done a b middle hdone hfirst)).mpr ⟨hlater, hpairwise⟩
        exact ⟨last, middle, hfirst, hlast⟩
  simpa using hrest l [] b hstart

/-- Elements are appended one after another exactly if each is admitted by itself and beside those before it, and nothing but the elements is in the list then. -/
theorem foldlM_append_eq_ok_iff {add : List α → α → Except ε (List α)} {P : α → Prop}
    {R : α → α → Prop}
    (hadd : ∀ {earlier a later}, add earlier a = .ok later ↔
      later = earlier ++ [a] ∧ P a ∧ ∀ other ∈ earlier, R other a) {given built : List α} :
    given.foldlM add [] = .ok built ↔ built = given ∧ (∀ a ∈ given, P a) ∧ given.Pairwise R := by
  have hexists : (∃ built, given.foldlM add [] = .ok built) ↔
      (∀ a ∈ given, P a) ∧ given.Pairwise R := by
    refine exists_foldlM_iff (fun done built => built = done) ?_ ?_ rfl given
    · rintro done _ a rfl
      simp only [hadd, exists_eq_left]
    · rintro done a _ built rfl hstep
      exact (hadd.mp hstep).1
  have hsame : ∀ {built}, given.foldlM add [] = .ok built → built = given := by
    intro built h
    have hend := foldlM_invariant (fun rest done => done ++ rest = given)
      (fun a rest done done' hdone hstep => ?_) (List.nil_append given) h
    · simpa using hend
    · rw [(hadd.mp hstep).1, List.append_assoc]
      exact hdone
  constructor
  · intro h
    exact ⟨hsame h, hexists.mp ⟨built, h⟩⟩
  · rintro ⟨rfl, hadmitted⟩
    obtain ⟨built', h⟩ := hexists.mpr hadmitted
    rw [h, hsame h]

def error? : Except ε α → Option ε
  | .error e => some e
  | .ok _ => none

@[simp] theorem error?_ok (a : α) : error? (.ok a : Except ε α) = none := rfl

@[simp] theorem error?_error (e : ε) : error? (.error e : Except ε α) = some e := rfl

@[simp] theorem error?_map (x : Except ε α) (f : α → β) : error? (x.map f) = error? x := by
  cases x <;> rfl

/-- Of two steps the first that fails gives the error, if what follows always succeeds. -/
theorem error?_bind_map {γ : Type} (x : Except ε α) (y : Except ε β) (f : α → β → γ) :
    error? (x >>= fun a => y.map (f a)) = (error? x).or (error? y) := by
  cases x with
  | error e => rfl
  | ok a => rw [ok_bind, error?_map, error?_ok, Option.none_or]

theorem error?_eq_some_iff {x : Except ε α} {e : ε} : error? x = some e ↔ x = .error e := by
  cases x with
  | error e' => simp only [error?_error, Option.some.injEq, Except.error.injEq]
  | ok a => simp only [error?_ok, reduceCtorEq]

theorem error?_eq_none_iff {x : Except ε α} : error? x = none ↔ ∃ a, x = .ok a := by
  cases x with
  | error e => simp only [error?_error, reduceCtorEq, exists_false]
  | ok a => simp only [error?_ok, Except.ok.injEq, exists_eq']

theorem toOption_eq_some_iff {x : Except ε α} {a : α} : x.toOption = some a ↔ x = .ok a := by
  cases x with
  | error e => simp only [Except.toOption, reduceCtorEq]
  | ok b => simp only [Except.toOption, Option.some.injEq, Except.ok.injEq]

theorem exists_of_isOk {x : Except ε α} (h : x.isOk = true) : ∃ a, x = .ok a := by
  cases x with
  | error e => cases h
  | ok a => exact ⟨a, rfl⟩

end Outcome

end SearchFilter
