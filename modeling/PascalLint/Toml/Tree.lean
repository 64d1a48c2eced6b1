import PascalLint.Toml.Value

/-! Tables while a document is read.

A table comes to be by a header of its own, by the header of one of its sub-tables, or by a key
with dots. What may be added to it later depends on that: a header may take over a table that only
a sub-table's header has brought about, and a dotted key may not enter a table that has a header
of its own. A table that a header takes over moves to the end of the table it stands in. -/
namespace PascalLint.Toml

/-- How a table came to be. -/
inductive Origin where
  | header
  /-- By the header of a sub-table. -/
  | implied
  | dotted
deriving DecidableEq

inductive Node where
  | value (v : Value)
  | table (origin : Origin) (entries : List (Text × Node))
  /-- An array of tables, the last one apart. -/
  | tables (earlier : List (List (Text × Node))) (last : List (Text × Node))

abbrev Entries := List (Text × Node)

namespace Entries

def get? (key : Text) : Entries → Option Node
  | [] => none
  | (k, node) :: rest => if k = key then some node else get? key rest

/-- The entries with another node under a key, at the key's place. -/
def set (key : Text) (node : Node) (entries : Entries) : Entries :=
  entries.map fun entry => if entry.1 = key then (key, node) else entry

def erase (key : Text) (entries : Entries) : Entries := entries.filter (·.1 != key)

/-- The entries after a change to the table at a path below them. Tables that the path lacks are
made on the way; of an array of tables the last is entered. -/
def change (dotted : Bool) (f : Origin → Entries → Option Entries) :
    List Text → Origin → Entries → Option Entries
  | [], origin, entries => f origin entries
  | key :: path, _, entries =>
    match get? key entries with
    | none => do
      let origin := if dotted then .dotted else .implied
      let inner ← change dotted f path origin []
      some (entries ++ [(key, .table origin inner)])
    | some (.table origin inner) =>
      if dotted && origin == .header then none
      else do
        let inner ← change dotted f path origin inner
        some (set key (.table origin inner) entries)
    | some (.tables earlier last) => do
      let last ← change dotted f path .header last
      some (set key (.tables earlier last) entries)
    | some (.value _) => none

/-- A new key with its value. A table made by dotted keys takes more of them and nothing else;
other tables take none. -/
def insert (dotted : Bool) (key : Text) (v : Value) (origin : Origin) (entries : Entries) :
    Option Entries :=
  if (origin == .dotted) != dotted then none
  else match get? key entries with
    | none => some (entries ++ [(key, .value v)])
    | some _ => none

/-- A key with a value, in a table. -/
def assign (path : List Text) (key : Text) (v : Value) (origin : Origin) (entries : Entries) :
    Option Entries :=
  change true (insert (!path.isEmpty) key v) path origin entries

/-- A table with a header of its own. -/
def openTable (key : Text) (entries : Entries) : Option Entries :=
  match get? key entries with
  | none => some (entries ++ [(key, .table .header [])])
  | some (.table .implied inner) => some (erase key entries ++ [(key, .table .header inner)])
  | some _ => none

/-- One more table in an array of tables. -/
def openItem (key : Text) (entries : Entries) : Option Entries :=
  match get? key entries with
  | none => some (entries ++ [(key, .tables [] [])])
  | some (.tables earlier last) => some (set key (.tables (earlier ++ [last]) []) entries)
  | some _ => none

end Entries

/-! ### Finished tables -/

mutual

def Node.toValue : Node → Value
  | .value v => v
  | .table _ entries => .table (entriesToTable entries)
  | .tables earlier last => .array (tablesToItems earlier ++ [.table (entriesToTable last)])

def entriesToTable : List (Text × Node) → List (Text × Value)
  | [] => []
  | (key, node) :: rest => (key, node.toValue) :: entriesToTable rest

def tablesToItems : List (List (Text × Node)) → List Value
  | [] => []
  | entries :: rest => .table (entriesToTable entries) :: tablesToItems rest

end

end PascalLint.Toml
