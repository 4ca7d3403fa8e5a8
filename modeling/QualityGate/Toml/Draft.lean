import QualityGate.Toml.Basic

/-!
# Tables under construction

The tables of a settings document are filled by key and value pairs, by headers and by headers of
lists.  How a table came to be decides what may still be added to it: a header opens a table once,
dotted keys only add to tables that dotted keys made, and a written value is closed.
-/

namespace QualityGate
namespace Toml

/-- How a table came to be. -/
inductive Origin where
  /-- A header of a table inside it. -/
  | implied
  /-- A dotted key. -/
  | dotted
  /-- Its own header. -/
  | header
deriving Repr, DecidableEq

/-- A value under construction. -/
inductive Draft where
  /-- A written value, which is closed. -/
  | closed (value : Toml)
  | table (origin : Origin) (entries : List (String × Draft))
  /-- A list of tables, from the last one to the first. -/
  | tables (reversed : List (List (String × Draft)))
deriving Inhabited

namespace Draft

/-- The entries of a table under construction. -/
abbrev Entries := List (String × Draft)

/-- Replace the value of a key. -/
def replace (key : String) (value : Draft) : Entries → Entries
  | [] => []
  | entry :: rest =>
    if entry.1 == key then (key, value) :: rest else entry :: replace key value rest

/-- Add an entry for a key that has none. -/
def add (key : String) (value : Draft) (entries : Entries) : Option Entries :=
  if (entries.lookup key).isSome then none else some (entries ++ [(key, value)])

/-- Change the entries of the table under a path of a header; tables on the way that do not exist
are made. -/
def modifyAt (change : Entries → Option Entries) : List String → Entries → Option Entries
  | [], entries => change entries
  | key :: path, entries =>
    match entries.lookup key with
    | none => do
      let inner ← modifyAt change path []
      return entries ++ [(key, .table .implied inner)]
    | some (.table origin inner) => do
      let inner ← modifyAt change path inner
      return replace key (.table origin inner) entries
    | some (.tables (last :: others)) => do
      let last ← modifyAt change path last
      return replace key (.tables (last :: others)) entries
    | some _ => none

/-- Open the table under a key by its header. -/
def openTable (key : String) (entries : Entries) : Option Entries :=
  match entries.lookup key with
  | none => some (entries ++ [(key, .table .header [])])
  | some (.table .implied inner) => some (replace key (.table .header inner) entries)
  | some _ => none

/-- Append an empty table to the list of tables under a key. -/
def appendTable (key : String) (entries : Entries) : Option Entries :=
  match entries.lookup key with
  | none => some (entries ++ [(key, .tables [[]])])
  | some (.tables reversed) => some (replace key (.tables ([] :: reversed)) entries)
  | some _ => none

/-- Add a value under a key, which may be dotted. -/
def insert (value : Draft) : List String → Entries → Option Entries
  | [], _ => none
  | [key], entries => add key value entries
  | key :: next :: path, entries =>
    match entries.lookup key with
    | none => do
      let inner ← insert value (next :: path) []
      return entries ++ [(key, .table .dotted inner)]
    | some (.table origin inner) =>
      if origin == .dotted || (origin == .implied && !path.isEmpty) then do
        let inner ← insert value (next :: path) inner
        return replace key (.table origin inner) entries
      else none
    | some _ => none

mutual

/-- The value that was constructed. -/
def finish : Draft → Toml
  | .closed value => value
  | .table _ entries => .table (finishEntries entries)
  | .tables reversed => .array (finishTables reversed).reverse

/-- The entries that were constructed. -/
def finishEntries : List (String × Draft) → List (String × Toml)
  | [] => []
  | (key, value) :: rest => (key, finish value) :: finishEntries rest

/-- The tables that were constructed. -/
def finishTables : List (List (String × Draft)) → List Toml
  | [] => []
  | entries :: rest => .table (finishEntries entries) :: finishTables rest

end

end Draft
end Toml
end QualityGate
