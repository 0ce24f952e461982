import Traversal.Document.Data

/-! The tables of TOML. A table may be written in several places, but only as far as its parts
cannot collide: a header opens each table once, a dotted key does not add to a table that has a
header, and what is written between braces or brackets is complete. -/
namespace Traversal.Document.Toml

/-- How a table came about: in passing, on the way to a table with a longer header; on the way of a
dotted key; or by a header of its own. -/
inductive Origin
  | passing
  | dotted
  | header
  deriving Repr, DecidableEq

/-- What a key stands for: a complete value, a table that may still grow, or a list of tables, of
which only the last may still grow. -/
inductive Node
  | value (data : Data)
  | table (origin : Origin) (entries : List (String × Node))
  | tables (earlier : List Data) (last : List (String × Node))

/-- The keys of a table with what they stand for, each key once. -/
abbrev Entries := List (String × Node)

/-- An entry put into entries that are sorted by key. -/
def insertByKey (entry : String × Data) : List (String × Data) → List (String × Data)
  | [] => [entry]
  | other :: rest =>
    if entry.1 < other.1 then entry :: other :: rest else other :: insertByKey entry rest

mutual

/-- The data of a node. -/
def Node.data : Node → Data
  | .value data => data
  | .table _ entries => .record (entriesData entries)
  | .tables earlier last => .list (earlier ++ [.record (entriesData last)])

/-- The data of the entries of a table, sorted by key. -/
def entriesData : List (String × Node) → List (String × Data)
  | [] => []
  | (key, node) :: rest => insertByKey (key, node.data) (entriesData rest)

end

namespace Entries

/-- The entries with what a key stands for changed. A new key is put last. -/
def change (key : String) (update : Option Node → Option Node) : Entries → Option Entries
  | [] => (update none).map fun node => [(key, node)]
  | (name, node) :: rest =>
    if name = key then (update (some node)).map fun node => (name, node) :: rest
    else (change key update rest).map ((name, node) :: ·)

/-- Changes the table at a path of headers. Tables that are missing on the way arise in passing. -/
def inside (update : Entries → Option Entries) : List String → Entries → Option Entries
  | [], entries => update entries
  | key :: path, entries =>
    change key (fun
      | none => (inside update path []).map (Node.table .passing)
      | some (.table origin inner) => (inside update path inner).map (Node.table origin)
      | some (.tables earlier last) => (inside update path last).map (Node.tables earlier)
      | some (.value _) => none) entries

/-- Opens a table by its header. It may have arisen in passing before. -/
def openTable (path : List String) (key : String) : Entries → Option Entries :=
  inside (change key fun
    | none => some (.table .header [])
    | some (.table .passing entries) => some (.table .header entries)
    | some _ => none) path

/-- Opens one more table of a list of tables. -/
def openElement (path : List String) (key : String) : Entries → Option Entries :=
  inside (change key fun
    | none => some (.tables [] [])
    | some (.tables earlier last) => some (.tables (earlier ++ [.record (entriesData last)]) [])
    | some _ => none) path

/-- Adds a value under a dotted key. Its last table must have arisen from dotted keys. On the way to
it lie tables without a header, and lists of tables, of which the last table counts. -/
def addValue (key : String) (data : Data) : List String → Entries → Option Entries
  | [], entries =>
    change key (fun
      | none => some (.value data)
      | some _ => none) entries
  | part :: path, entries =>
    change part (fun
      | none => (addValue key data path []).map (Node.table .dotted)
      | some (.table .dotted inner) => (addValue key data path inner).map (Node.table .dotted)
      | some (.table .passing inner) =>
        if path.isEmpty then none else (addValue key data path inner).map (Node.table .passing)
      | some (.tables earlier last) =>
        if path.isEmpty then none else (addValue key data path last).map (Node.tables earlier)
      | some _ => none) entries

end Entries

end Traversal.Document.Toml
