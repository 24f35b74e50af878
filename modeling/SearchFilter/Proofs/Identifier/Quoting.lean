import Mathlib.Logic.Function.Basic
import SearchFilter.Vocabulary
/-!
# Reading quoted names

A quoted name is read from its opening quote on, one character at a time. Two quotes in a row stand for one quote of the name, and a quote with something else behind it closes the name, so a quote that was just read is pending until the next character, or the end of the text, decides what it is.

The reader accepts what quoting writes and nothing else, whatever follows: no name closes its quotes early and none swallows the quote that closes it, however many quotes it has and wherever they stand. So a name can be told from its quoted form, and a reference to a column is its table, a point and its name and cannot be taken for anything else.
-/

namespace SearchFilter

namespace Identifier

variable {name rest s : List Char} {pending : Bool}

/-! ### The reader -/

/-- Reads on behind an opening quote: the rest of the name, and what follows the quote that closes it. The last character read is a `pending` quote if nothing has decided yet what it is. -/
def readBehind? (pending : Bool) : List Char → Option (List Char × List Char)
  | [] => if pending then some ([], []) else none
  | c :: s =>
    if c = '"' then
      if pending then (readBehind? false s).map fun (name, rest) => (c :: name, rest) else readBehind? true s
    else if pending then some ([], c :: s)
    else (readBehind? false s).map fun (name, rest) => (c :: name, rest)

def readQuoted? : List Char → Option (String × List Char)
  | [] => none
  | c :: s =>
    if c = '"' then (readBehind? false s).map fun (name, rest) => (String.ofList name, rest) else none

def readReference? (s : List Char) : Option (String × String) := do
  let (table, s) ← readQuoted? s
  let s ← List.isPrefixOf? ['.'] s
  let (column, s) ← readQuoted? s
  if s.isEmpty then some (table, column) else none

/-! ### Reading what is quoted -/

/-- The rest must not go on with a quote, which the reader would take together with the closing one. -/
theorem readBehind?_doubled (name : List Char) (hrest : rest.head? ≠ some '"') :
    readBehind? false (doubled '"' name ++ '"' :: rest) = some (name, rest) := by
  induction name with
  | nil =>
    have hclosed : readBehind? true rest = some ([], rest) := by
      cases rest with
      | nil => rfl
      | cons c rest =>
        have hc : c ≠ '"' := by simpa using hrest
        simp [readBehind?, hc]
    simpa [doubled, readBehind?] using hclosed
  | cons c name ih =>
    by_cases hc : c = '"'
    · simp [doubled, readBehind?, hc, ih]
    · simp [doubled, readBehind?, hc, ih]

/-- With a pending quote put back in front, what was read is the doubled name and a closing quote. -/
theorem eq_doubled_of_readBehind? (h : readBehind? pending s = some (name, rest)) :
    (if pending then ['"'] else []) ++ s = doubled '"' name ++ '"' :: rest ∧ rest.head? ≠ some '"' := by
  induction s generalizing pending name with
  | nil =>
    cases pending with
    | false => simp [readBehind?] at h
    | true =>
      obtain ⟨rfl, rfl⟩ : name = [] ∧ rest = [] := by simpa [readBehind?, eq_comm] using h
      simp [doubled]
  | cons c s ih =>
    by_cases hc : c = '"'
    · cases pending with
      | false =>
        have hs : readBehind? true s = some (name, rest) := by simpa [readBehind?, hc] using h
        simpa [hc] using ih hs
      | true =>
        obtain ⟨tail, hs, rfl⟩ : ∃ tail, readBehind? false s = some (tail, rest) ∧ '"' :: tail = name := by
          simpa [readBehind?, hc] using h
        simpa [doubled, hc] using ih hs
    · cases pending with
      | false =>
        obtain ⟨tail, hs, rfl⟩ : ∃ tail, readBehind? false s = some (tail, rest) ∧ c :: tail = name := by
          simpa [readBehind?, hc] using h
        simpa [doubled, hc] using ih hs
      | true =>
        obtain ⟨rfl, rfl⟩ : name = [] ∧ rest = c :: s := by simpa [readBehind?, hc, eq_comm] using h
        simp [doubled, hc]

theorem readQuoted?_eq_some_iff {name : String} :
    readQuoted? s = some (name, rest) ↔ s = (quote name).toList ++ rest ∧ rest.head? ≠ some '"' := by
  have hquote : (quote name).toList ++ rest = '"' :: (doubled '"' name.toList ++ '"' :: rest) := by
    simp [quote]
  rw [hquote]
  constructor
  · intro h
    cases s with
    | nil => simp [readQuoted?] at h
    | cons c s =>
      obtain ⟨rfl, chars, hs, rfl⟩ : c = '"' ∧ ∃ chars, readBehind? false s = some (chars, rest) ∧
          String.ofList chars = name := by
        simpa [readQuoted?] using h
      obtain ⟨hread, hrest⟩ := eq_doubled_of_readBehind? hs
      exact ⟨by simpa using hread, hrest⟩
  · rintro ⟨rfl, hrest⟩
    simp [readQuoted?, readBehind?_doubled _ hrest]

example : readQuoted? "\"a\"\"b\"; --".toList = some ("a\"b", "; --".toList) := by decide +kernel

theorem readQuoted?_toList_quote (name : String) :
    readQuoted? (quote name).toList = some (name, []) :=
  readQuoted?_eq_some_iff.mpr ⟨(List.append_nil _).symm, by simp⟩

theorem readReference?_quote (table column : String) :
    readReference? (quote table ++ "." ++ quote column).toList = some (table, column) := by
  have htable : readQuoted? ((quote table).toList ++ '.' :: (quote column).toList) =
      some (table, '.' :: (quote column).toList) :=
    readQuoted?_eq_some_iff.mpr ⟨rfl, by simp⟩
  have hpoint (s : List Char) : ['.'].isPrefixOf? ('.' :: s) = some s := rfl
  simp [readReference?, htable, hpoint, readQuoted?_toList_quote]

/-- The quoted form of a name is read as this name to its end, whatever the name is, so different names have different quoted forms. In front of other text it is read as well, and nothing else is. The references to the columns of a table are read as the names of the table and the column. -/
theorem readQuoted?_quote :
    (∀ name, readQuoted? (quote name).toList = some (name, [])) ∧
    Function.Injective quote ∧
    (∀ name rest s, readQuoted? s = some (name, rest) ↔
      s = (quote name).toList ++ rest ∧ rest.head? ≠ some '"') ∧
    ∀ table columns,
      (Vocabulary.columnRefs quote table columns).map (fun ref => readReference? ref.text.toList) =
        columns.map fun column => some (table, column.name) := by
  refine ⟨readQuoted?_toList_quote, fun name other hsame => ?_,
    fun _ _ _ => readQuoted?_eq_some_iff, fun table columns => ?_⟩
  · have hread := readQuoted?_toList_quote name
    rw [hsame, readQuoted?_toList_quote other] at hread
    simpa [eq_comm] using hread
  · rw [Vocabulary.columnRefs, List.map_map]
    exact List.map_congr_left fun column _ => readReference?_quote table column.name

end Identifier

end SearchFilter
