import Traversal.Document.Scan

/-! The texts of TOML: basic texts, in which a backslash escapes, and literal texts, in which
nothing does; each on one line, or over several between threefold quote marks. -/
namespace Traversal.Document.Toml
open Scan

/-- Blanks within a line. -/
def isBlank (c : Char) : Bool := c == ' ' || c == '\t'

/-- The characters that may stand for themselves: all but the control characters, of which only the
tab may. -/
def isPlain (c : Char) : Bool := c == '\t' || (0x20 ≤ c.toNat && c.toNat ≠ 0x7F)

/-- The end of a line. -/
def newline : Scan Unit := either (symbol '\n') (word ['\r', '\n'])

/-- What stands behind a backslash. -/
def escaped : Scan Char := do
  match ← next with
  | '\x22' => pure '\x22'
  | '\x5c' => pure '\x5c'
  | 'b' => pure '\x08'
  | 'e' => pure '\x1b'
  | 'f' => pure '\x0c'
  | 'n' => pure '\n'
  | 'r' => pure '\r'
  | 't' => pure '\t'
  | 'x' => do character (← codePoint 2)
  | 'u' => do character (← codePoint 4)
  | 'U' => do character (← codePoint 8)
  | _ => fail

/-- An escaped character with its backslash. -/
def escape : Scan Char := do
  symbol '\x5c'
  escaped

/-- A text on one line between marks. -/
def lineText (mark : Char) (piece : Scan Char) : Scan String := do
  symbol mark
  let characters ← many piece
  symbol mark
  return String.ofList characters

/-- A basic text on one line. -/
def basicLine : Scan String :=
  lineText '\x22' <| either escape (oneOf fun c => isPlain c && c != '\x22' && c != '\x5c')

/-- A literal text on one line. -/
def literalLine : Scan String :=
  lineText '\x27' (oneOf fun c => isPlain c && c != '\x27')

/-- A backslash at the end of a line, which removes all blanks and line ends that follow it. -/
def continuation : Scan (List Char) := do
  symbol '\x5c'
  let _ ← run isBlank
  newline
  let _ ← many (either newline do let _ ← oneOf isBlank)
  return []

/-- One or two quote marks inside a text between threefold ones. -/
def innerMarks (mark : Char) : Scan (List Char) := do
  let marks ← run1 (· == mark)
  if marks.length < 3 then pure marks else fail

/-- The end of a text between threefold quote marks. Up to two more marks in front of them belong to
the text. -/
def closingMarks (mark : Char) : Scan (List Char) := do
  let marks ← run (· == mark)
  if 3 ≤ marks.length && marks.length ≤ 5 then pure (marks.drop 3) else fail

/-- A text between threefold quote marks. A line end at its start does not belong to it, and every
other line end counts as a line feed. -/
def blockText (mark : Char) (piece : Scan (List Char)) : Scan String := do
  word [mark, mark, mark]
  let _ ← maybe newline
  let lineFeed : Scan (List Char) := do newline; pure ['\n']
  let pieces ← many (either piece (either lineFeed (innerMarks mark)))
  let last ← closingMarks mark
  return String.ofList (pieces.flatten ++ last)

/-- A character as a piece of a text. -/
def single (scan : Scan Char) : Scan (List Char) := do return [← scan]

/-- A basic text over several lines. -/
def basicBlock : Scan String :=
  blockText '\x22' <| either continuation <| either (single escape) <|
    single (oneOf fun c => isPlain c && c != '\x22' && c != '\x5c')

/-- A literal text over several lines. -/
def literalBlock : Scan String :=
  blockText '\x27' (single (oneOf fun c => isPlain c && c != '\x27'))

/-- A text of any kind. Threefold marks open a text over several lines in any case. -/
def text : Scan String := fun input =>
  if ['\x22', '\x22', '\x22'].isPrefixOf input then basicBlock input
  else if ['\x27', '\x27', '\x27'].isPrefixOf input then literalBlock input
  else either basicLine literalLine input

/-- The characters of a key without quote marks. -/
def isKeyChar (c : Char) : Bool := c.isAlphanum || c == '-' || c == '_'

/-- One part of a key. -/
def keyPart : Scan String :=
  either (do return String.ofList (← run1 isKeyChar)) (either basicLine literalLine)

/-- The dot between the parts of a key, with the blanks around it. -/
def keyDot : Scan Unit := do
  let _ ← run isBlank
  symbol '.'
  let _ ← run isBlank

/-- The greatest number of lists and tables around a value, and of the parts of a key. -/
def maxNesting : Nat := 80

/-- A key: its parts but the last, and the last. -/
def key : Scan (List String × String) := do
  let first ← keyPart
  let others ← many (do keyDot; keyPart)
  if others.length < maxNesting then
    return ((first :: others).dropLast, others.getLastD first)
  else fail

end Traversal.Document.Toml
