import Traversal.Document.Toml.Scalar
import Traversal.Document.Toml.Table
import Traversal.Document.Toml.Text

/-! The format TOML. A text is a sequence of statements, one a line, which build up the root table;
its data list the entries of every table sorted by key. -/
namespace Traversal.Document.Toml
open Scan

/-- A comment, up to the end of its line. -/
def comment : Scan Unit := do
  symbol '#'
  let _ ← run isPlain

/-- Blanks, comments and line ends between the parts of a list or a table. -/
def filler : Scan Unit := do
  let _ ← many (either (do let _ ← oneOf isBlank) (either newline (do comment; newline)))

/-- Blanks within a line. -/
def blanks : Scan Unit := do
  let _ ← run isBlank

/-- Items between brackets. A comma may follow the last of them, and every item and comma may stand
on a line of its own. -/
def enclosed {α : Type} (opening closing : Char) (item : Scan α) : Scan (List α) := do
  symbol opening
  let items ← separated (do filler; item) (do filler; symbol ',')
  if !items.isEmpty then
    let _ ← maybe (do filler; symbol ',')
  filler
  symbol closing
  return items

/-- A key, an equals sign and a value. -/
structure Assignment where
  path : List String
  key : String
  data : Data

/-- An assignment, with what may stand on either side of its equals sign. -/
def assignment (gap : Scan Unit) (inner : Scan Data) : Scan Assignment := do
  let (path, key) ← key
  gap
  symbol '='
  gap
  return ⟨path, key, ← inner⟩

/-- The entries that assignments add up to. -/
def assemble (assignments : List Assignment) : Option Entries :=
  assignments.foldlM (fun entries a => entries.addValue a.key a.data a.path) []

section

variable (inner : Scan Data)

/-- A list between brackets. -/
def list : Scan Data := Data.list <$> enclosed '[' ']' inner

/-- A table between braces. -/
def inlineTable : Scan Data := do
  match assemble (← enclosed '\x7b' '\x7d' (assignment filler inner)) with
  | some entries => return .record (entriesData entries)
  | none => fail

end

/-- A value in which lists and tables are nested at most `depth` deep. -/
def value : Nat → Scan Data
  | 0 => either (Data.text <$> text) scalar
  | depth + 1 =>
    either (Data.text <$> text) <| either (list (value depth)) <|
      either (inlineTable (value depth)) scalar

/-- A statement: the header of a table, that of one more table of a list, or an assignment in the
table of the last header. -/
inductive Statement
  | table (path : List String) (key : String)
  | element (path : List String) (key : String)
  | assign (assignment : Assignment)

/-- The header of a table. -/
def tableHeader : Scan Statement := do
  symbol '['
  blanks
  let (path, key) ← key
  blanks
  symbol ']'
  return .table path key

/-- The header of one more table of a list. -/
def elementHeader : Scan Statement := do
  word ['[', '[']
  blanks
  let (path, key) ← key
  blanks
  word [']', ']']
  return .element path key

/-- A line, which may hold a statement and a comment. -/
def line : Scan (Option Statement) := do
  blanks
  let statement ← maybe <| either elementHeader <| either tableHeader <|
    Statement.assign <$> assignment blanks (value maxNesting)
  blanks
  let _ ← maybe comment
  either newline finished
  return statement

/-- The tables built so far, and the path of the one to which assignments belong. -/
structure Building where
  current : List String
  root : Entries

/-- Carries out a statement. -/
def Building.perform (building : Building) : Statement → Option Building
  | .table path key => do return ⟨path ++ [key], ← building.root.openTable path key⟩
  | .element path key => do return ⟨path ++ [key], ← building.root.openElement path key⟩
  | .assign a => do
    let root ← building.root.inside (Entries.addValue a.key a.data a.path) building.current
    return { building with root }

/-- The statements of a text. -/
def statements : Scan (List Statement) := do
  let lines ← many line
  finished
  return lines.filterMap id

/-- A text without the mark of byte order at its start. -/
def withoutMark : List Char → List Char
  | c :: rest => if c.toNat = 0xFEFF then rest else c :: rest
  | [] => []

/-- The root table of a text. -/
def parse (text : List Char) : Option Data := do
  let found ← Scan.whole statements (withoutMark text)
  let built ← found.foldlM Building.perform ⟨[], []⟩
  return .record (entriesData built.root)

end Traversal.Document.Toml
