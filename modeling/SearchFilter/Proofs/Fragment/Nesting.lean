import SearchFilter.Proofs.Fragment.Clauses
import SearchFilter.Proofs.Text.Parts
/-!
# Nested parentheses and the cuts between them

A text is nested if it closes only parentheses that are open and leaves none open. `pieces` reads a text from the left, keeps count of the open parentheses, and cuts at each ` AND ` that it meets while none is open.

Reading a nested text comes back to the depth at which it began and never falls below it, so inside parentheses it is not cut, whatever it says. A conjunction of nested texts in parentheses is therefore cut where the texts were joined and nowhere else.
-/

namespace SearchFilter

namespace Text

variable {s t : String} {c : Char} {depth depth' : Nat} {l : List Char}

/-! ### Nested texts -/

/-- The open parentheses behind a character. None can be closed where none is open. -/
def depthAfter? (depth : Nat) (c : Char) : Option Nat :=
  if c = '(' then some (depth + 1)
  else if c = ')' then (if depth = 0 then none else some (depth - 1))
  else some depth

def depthBehind? (depth : Nat) (s : List Char) : Option Nat := s.foldlM depthAfter? depth

/-- Parentheses are balanced, and none is closed before it is opened. -/
def Nested (s : String) : Prop := depthBehind? 0 s.toList = some 0

instance (s : String) : Decidable (Nested s) :=
  inferInstanceAs (Decidable (depthBehind? 0 s.toList = some 0))

theorem depthBehind?_cons : depthBehind? depth (c :: l) =
    (depthAfter? depth c).bind fun next => depthBehind? next l := by
  rw [depthBehind?, List.foldlM_cons]
  rfl

theorem depthBehind?_append {l' : List Char} : depthBehind? depth (l ++ l') =
    (depthBehind? depth l).bind fun next => depthBehind? next l' := by
  rw [depthBehind?, List.foldlM_append]
  rfl

theorem depthAfter?_succ (h : depthAfter? depth c = some depth') :
    depthAfter? (depth + 1) c = some (depth' + 1) := by
  unfold depthAfter? at h ⊢
  split at h
  · rename_i hopen
    cases h
    rw [if_pos hopen]
  · rename_i hopen
    rw [if_neg hopen]
    split at h
    · rename_i hclose
      split at h
      · cases h
      · rename_i hpositive
        cases h
        rw [if_pos hclose, if_neg (Nat.succ_ne_zero depth), Nat.add_sub_cancel,
          Nat.sub_add_cancel (Nat.pos_of_ne_zero hpositive)]
    · rename_i hclose
      cases h
      rw [if_neg hclose]

theorem depthBehind?_succ (h : depthBehind? depth l = some depth') :
    depthBehind? (depth + 1) l = some (depth' + 1) := by
  induction l generalizing depth with
  | nil =>
    cases h
    rfl
  | cons c rest ih =>
    rw [depthBehind?_cons] at h ⊢
    obtain ⟨next, hnext, hrest⟩ := Option.bind_eq_some_iff.mp h
    rw [depthAfter?_succ hnext]
    exact ih hrest

theorem Nested.append (hs : Nested s) (ht : Nested t) : Nested (s ++ t) := by
  rw [Nested, String.toList_append, depthBehind?_append, hs]
  exact ht

theorem Nested.parenthesized (h : Nested s) : Nested ("(" ++ s ++ ")") := by
  have hopen : depthBehind? 0 "(".toList = some 1 := by decide
  have hinside : depthBehind? 1 s.toList = some 1 := depthBehind?_succ h
  have hclose : depthBehind? 1 ")".toList = some 0 := by decide
  rw [Nested, String.toList_append, String.toList_append, depthBehind?_append,
    depthBehind?_append, hopen, Option.bind_some, hinside, Option.bind_some, hclose]

theorem composes_nested : Composes Nested := ⟨Nested.append, Nested.parenthesized⟩

theorem nested_of_not_mem (hopen : '(' ∉ s.toList) (hclose : ')' ∉ s.toList) : Nested s := by
  unfold Nested
  generalize s.toList = l at hopen hclose
  induction l with
  | nil => rfl
  | cons c rest ih =>
    rw [List.mem_cons, not_or] at hopen hclose
    rw [depthBehind?_cons, depthAfter?, if_neg (Ne.symm hopen.1), if_neg (Ne.symm hclose.1)]
    exact ih hopen.2 hclose.2

/-! ### Cutting -/

/-- The parts between the cuts. Behind a cut the rest of the separator is skipped. -/
def pieces : Nat → Nat → List Char → List (List Char)
  | _, _, [] => [[]]
  | skip + 1, depth, _ :: rest => pieces skip depth rest
  | 0, depth, c :: rest =>
    if depth = 0 ∧ " AND ".toList <+: c :: rest then [] :: pieces 4 0 rest
    else (pieces 0 ((depthAfter? depth c).getD 0) rest).modifyHead (c :: ·)

/-- The pieces of a text that is cut at each ` AND ` outside of parentheses. The empty text has none. -/
def topPieces (s : String) : List String :=
  if s = "" then [] else (pieces 0 0 s.toList).map String.ofList

/-- Nothing is cut in the text where it stands outside of parentheses, and it ends there again. -/
def Whole (s : String) : Prop := ∀ rest : List Char,
  pieces 0 0 (s.toList ++ rest) = (pieces 0 0 rest).modifyHead (s.toList ++ ·)

theorem pieces_inside (h : depthBehind? depth l = some depth') (rest : List Char) :
    pieces 0 (depth + 1) (l ++ rest) =
      (pieces 0 (depth' + 1) rest).modifyHead (l ++ ·) := by
  induction l generalizing depth with
  | nil =>
    cases h
    exact (congrFun List.modifyHead_id _).symm
  | cons c l ih =>
    rw [depthBehind?_cons] at h
    obtain ⟨next, hnext, hl⟩ := Option.bind_eq_some_iff.mp h
    have hinside : ¬ (depth + 1 = 0 ∧ " AND ".toList <+: c :: (l ++ rest)) :=
      fun hcut => Nat.succ_ne_zero depth hcut.1
    rw [List.cons_append, pieces, if_neg hinside, depthAfter?_succ hnext, Option.getD_some,
      ih hl, List.modifyHead_modifyHead]
    rfl

theorem Nested.whole_parenthesized (h : Nested s) : Whole ("(" ++ s ++ ")") := by
  intro rest
  have hparts : ("(" ++ s ++ ")").toList = '(' :: (s.toList ++ [')']) := by simp
  have hopen : ¬ (0 = 0 ∧ " AND ".toList <+: '(' :: (s.toList ++ (')' :: rest))) := by
    rintro ⟨_, _, heq⟩
    cases heq
  have hclose : ¬ (0 + 1 = 0 ∧ " AND ".toList <+: ')' :: rest) := fun hcut => by cases hcut.1
  have hdepth : (depthAfter? 0 '(').getD 0 = 0 + 1 := rfl
  rw [hparts, List.cons_append, List.append_assoc, List.singleton_append, pieces, if_neg hopen,
    hdepth, pieces_inside h, pieces, if_neg hclose, List.modifyHead_modifyHead,
    List.modifyHead_modifyHead]
  congr 1
  funext part
  simp

theorem pieces_and (rest : List Char) :
    pieces 0 0 (" AND ".toList ++ rest) = [] :: pieces 0 0 rest := by
  have hparts : " AND ".toList ++ rest = ' ' :: ("AND ".toList ++ rest) := rfl
  rw [hparts, pieces, if_pos ⟨rfl, rest, rfl⟩]
  rfl

theorem pieces_intercalate {parts : List String} (hne : parts ≠ [])
    (h : ∀ part ∈ parts, Whole part) :
    pieces 0 0 (" AND ".intercalate parts).toList = parts.map String.toList := by
  induction parts with
  | nil => exact absurd rfl hne
  | cons part rest ih =>
    have hpart := h part List.mem_cons_self
    by_cases hrest : rest = []
    · have hlast := hpart []
      rw [List.append_nil, pieces, List.modifyHead_cons, List.append_nil] at hlast
      rw [hrest, String.intercalate_singleton, hlast, List.map_singleton]
    · have hothers := ih hrest fun other hother => h other (List.mem_cons_of_mem _ hother)
      rw [String.intercalate_cons_of_ne_nil hrest, String.toList_append, String.toList_append,
        List.append_assoc, hpart, pieces_and, hothers, List.modifyHead_cons, List.append_nil,
        List.map_cons]

end Text

namespace Fragment

open Text

theorem nested_conjunction {clauses : List Fragment}
    (h : ∀ clause ∈ clauses, Nested clause.template) : Nested (conjunction clauses).template := by
  by_cases hnone : clauses = []
  · rw [hnone]
    decide
  · refine composes_nested.intercalate (by decide) (by simpa using hnone) fun text htext => ?_
    obtain ⟨clause, hclause, rfl⟩ := List.mem_map.mp htext
    exact h clause hclause

theorem topPieces_conjunction {clauses : List Fragment}
    (hwhole : ∀ clause ∈ clauses, Whole clause.template)
    (hnonempty : ∀ clause ∈ clauses, clause.isEmpty = false) :
    topPieces (conjunction clauses).template = clauses.map template := by
  have hempty := conjunction_isEmpty_iff hnonempty
  rw [isEmpty, String.isEmpty_iff] at hempty
  rw [topPieces]
  split
  · rename_i htemplate
    rw [hempty.mp htemplate, List.map_nil]
  · rename_i htemplate
    have hne : clauses.map template ≠ [] := by simpa using mt hempty.mpr htemplate
    have hparts : ∀ part ∈ clauses.map template, Whole part := by
      intro part hpart
      obtain ⟨clause, hclause, rfl⟩ := List.mem_map.mp hpart
      exact hwhole clause hclause
    rw [conjunction, pieces_intercalate hne hparts, List.map_map]
    simp

example : topPieces "(a AND b) AND ((c) AND (d))" = ["(a AND b)", "((c) AND (d))"] := by
  decide +kernel

end Fragment

end SearchFilter
