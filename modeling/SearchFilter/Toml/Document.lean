/-!
# TOML documents

`Toml` is what a document holds in the end: texts, lists and tables. The other scalars are told apart by their form and carry no value. While a document is read its tables are open, and `Toml.Entry` records how each one came to be, because that decides what may still be added to it:

* a table with its own header takes further keys below that header only;
* a table implied by the header of a table inside it may still get a header of its own;
* a table made by a dotted key may be extended by dotted keys only;
* lists and inline tables are closed values;
* a header in double brackets opens a new table at the end of its list.
-/

namespace SearchFilter

/-- The scalars that are not text. A number may have no value: it is too large, or some of its characters are no digits. The document may hold it, but nobody can read it. -/
inductive Toml.Scalar where
  | integer
  | float
  | boolean
  | datetime
  | valueless
deriving DecidableEq, Repr

inductive Toml where
  | text (s : String)
  | scalar (form : Toml.Scalar)
  | list (items : List Toml)
  | table (entries : List (String × Toml))

namespace Toml

/-- How an open table came to be. -/
inductive Origin where
  | header
  | implied
  | dotted
deriving DecidableEq, Repr

/-- What a key of an open table holds: a closed value, an open table, or a list of tables whose last one is open. -/
inductive Entry where
  | value (v : Toml)
  | table (origin : Origin) (entries : List (String × Entry))
  | tables (items : List (List (String × Entry)))

abbrev Entries := List (String × Entry)

namespace Entries

/-- Puts an entry in place of the one that has its key. -/
def replace (key : String) (entry : Entry) (entries : Entries) : Entries :=
  entries.map fun (k, e) => if k = key then (k, entry) else (k, e)

/-- Gives a new key a closed value below a path of dotted keys. Every table on the way is made by dotted keys, except that one implied by a header may be passed through. -/
def assign : List String → String → Toml → Entries → Option Entries
  | [], key, v, entries =>
    match entries.lookup key with
    | some _ => none
    | none => some (entries ++ [(key, .value v)])
  | [last], key, v, entries =>
    match entries.lookup last with
    | none => some (entries ++ [(last, .table .dotted [(key, .value v)])])
    | some (.table .dotted inner) =>
      match inner.lookup key with
      | some _ => none
      | none => some (replace last (.table .dotted (inner ++ [(key, .value v)])) entries)
    | some _ => none
  | first :: path, key, v, entries =>
    match entries.lookup first with
    | none => (assign path key v []).map fun inner => entries ++ [(first, .table .dotted inner)]
    | some (.table .header _) => none
    | some (.table origin inner) =>
      (assign path key v inner).map fun inner => replace first (.table origin inner) entries
    | some (.tables items) =>
      match items.getLast? with
      | none => none
      | some inner =>
        (assign path key v inner).map fun inner => replace first (.tables (items.dropLast ++ [inner])) entries
    | some (.value _) => none

/-- Changes the table at a path of headers. Tables that are missing on the way are implied, and of a list of tables the last one is meant. -/
def change (f : Entries → Option Entries) : List String → Entries → Option Entries
  | [], entries => f entries
  | first :: path, entries =>
    match entries.lookup first with
    | none => (change f path []).map fun inner => entries ++ [(first, .table .implied inner)]
    | some (.table origin inner) =>
      (change f path inner).map fun inner => replace first (.table origin inner) entries
    | some (.tables items) =>
      match items.getLast? with
      | none => none
      | some inner => (change f path inner).map fun inner => replace first (.tables (items.dropLast ++ [inner])) entries
    | some (.value _) => none

def openTable (key : String) (entries : Entries) : Option Entries :=
  match entries.lookup key with
  | none => some (entries ++ [(key, .table .header [])])
  | some (.table .implied inner) => some (replace key (.table .header inner) entries)
  | some _ => none

/-- Opens a new table at the end of a list of tables. -/
def openListItem (key : String) (entries : Entries) : Option Entries :=
  match entries.lookup key with
  | none => some (entries ++ [(key, .tables [[]])])
  | some (.tables items) => some (replace key (.tables (items ++ [[]])) entries)
  | some _ => none

end Entries

mutual

/-- The value of an entry once nothing can be added any more. -/
def Entry.close : Entry → Toml
  | .value v => v
  | .table _ entries => .table (Entry.closeTable entries)
  | .tables items => .list (Entry.closeList items)

def Entry.closeTable : List (String × Entry) → List (String × Toml)
  | [] => []
  | (key, entry) :: rest => (key, entry.close) :: Entry.closeTable rest

def Entry.closeList : List (List (String × Entry)) → List Toml
  | [] => []
  | entries :: rest => .table (Entry.closeTable entries) :: Entry.closeList rest

end

end Toml

end SearchFilter
