import Community.Toml.Basic

/-!
# Tables under construction

A document builds its tables piece by piece: a header opens a table, a dotted key opens the
tables on its way, a double header adds a table to a list. What was built decides what may
still be added. A table is opened by a header once; a value is never changed; and a table
that came with dotted keys is not opened by a header, nor one that has its own header
reached by dotted keys.
-/

namespace Community.Toml

/-- How a table came to be. -/
inductive Standing
  /-- It lies on the way to a table with a header. -/
  | implied
  /-- It lies on the way of a dotted key. -/
  | dotted
  /-- It has its own header, or is an item of a list of tables, or the whole document. -/
  | defined
  deriving DecidableEq, Repr

/-- What a name in a table stands for so far. -/
inductive Node
  /-- A value, which nothing is added to. -/
  | value (v : Toml)
  | table (standing : Standing) (entries : List (String × Node))
  /-- A list of tables, the latest of which is still open. -/
  | tables (latest : List (String × Node)) (earlier : List (List (String × Node)))

/-- The names of a table and what they stand for. -/
abbrev Entries := List (String × Node)

namespace Entries

/-- The entries with one name set; a new name comes last. -/
def set (key : String) (node : Node) : Entries → Entries
  | [] => [(key, node)]
  | (k, n) :: rest => if k = key then (k, node) :: rest else (k, n) :: set key node rest

/-- Changes the table that a path leads to. Tables missing on the way are made; of a list of
tables the latest is meant. -/
def update (dotted : Bool) (change : Standing → Entries → Option Entries) :
    List String → Standing → Entries → Option Entries
  | [], standing, entries => change standing entries
  | key :: path, _, entries =>
    match entries.lookup key with
    | none => do
      let standing := if dotted then Standing.dotted else .implied
      return set key (.table standing (← update dotted change path standing [])) entries
    | some (.value _) => none
    | some (.table standing inner) =>
      if dotted ∧ standing = .defined then none
      else do return set key (.table standing
        (← update dotted change path standing inner)) entries
    | some (.tables latest earlier) => do
      return set key (.tables (← update dotted change path .defined latest) earlier) entries

/-- Adds a value under a key of one or more parts. The last part has to be new, and the table
it is in has to be the open one itself or one that dotted keys made. -/
def addValue (path : List String) (key : String) (v : Toml) (entries : Entries) :
    Option Entries :=
  update true (fun standing inner =>
    if (standing = .dotted) = path.isEmpty ∨ (inner.lookup key).isSome then none
    else some (set key (.value v) inner)) path .defined entries

/-- The entries without those of one name. -/
def erase (key : String) (entries : Entries) : Entries :=
  entries.filter fun (k, _) => k ≠ key

/-- Opens the table of a header: a new one, or one that was only implied. It comes last among
the names of the table it is in. -/
def openTable (path : List String) (key : String) (entries : Entries) : Option Entries :=
  update false (fun _ inner =>
    match inner.lookup key with
    | none => some (set key (.table .defined []) inner)
    | some (.table .implied old) => some (set key (.table .defined old) (erase key inner))
    | some _ => none) path .defined entries

/-- Adds an empty table to the list of a double header. -/
def addTable (path : List String) (key : String) (entries : Entries) : Option Entries :=
  update false (fun _ inner =>
    match inner.lookup key with
    | none => some (set key (.tables [] []) inner)
    | some (.tables latest earlier) => some (set key (.tables [] (latest :: earlier)) inner)
    | some _ => none) path .defined entries

/-- Adds a value to the table that the last header opened. -/
def addBelow (header path : List String) (key : String) (v : Toml) (entries : Entries) :
    Option Entries :=
  update false (fun _ inner => addValue path key v inner) header .defined entries

end Entries

mutual

/-- The value that a finished node stands for. -/
def Node.toml : Node → Toml
  | .value v => v
  | .table _ entries => .table (tomlEntries entries)
  | .tables latest earlier => .list (tomlTables earlier [.table (tomlEntries latest)])

/-- The finished entries of a table. -/
def tomlEntries : List (String × Node) → List (String × Toml)
  | [] => []
  | (key, node) :: rest => (key, node.toml) :: tomlEntries rest

/-- The finished tables of a list, given latest first. -/
def tomlTables : List (List (String × Node)) → List Toml → List Toml
  | [], done => done
  | entries :: earlier, done => tomlTables earlier (.table (tomlEntries entries) :: done)

end

end Community.Toml
