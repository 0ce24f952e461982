/-! The lines of a text as a terminal breaks them. -/
namespace Traversal.Text

/-- The characters that end a line: line feed, vertical tab, form feed, carriage return, next line,
and the line and paragraph separators. -/
def isLineEnd (c : Char) : Bool :=
  [0x000A, 0x000B, 0x000C, 0x000D, 0x0085, 0x2028, 0x2029].contains c.toNat

/-- The lines of a text, each with its ending; `line` holds what has been passed of the current one,
the last character first. A carriage return and the line feed behind it are one ending. The text
behind the last ending is a line only if it is not empty. -/
def linesFrom (line : List Char) : List Char → List (List Char)
  | [] => if line.isEmpty then [] else [line.reverse]
  | '\r' :: '\n' :: rest => ('\n' :: '\r' :: line).reverse :: linesFrom [] rest
  | c :: rest =>
    if isLineEnd c then (c :: line).reverse :: linesFrom [] rest else linesFrom (c :: line) rest

/-- The lines of a text, each with its ending. -/
def lines (text : List Char) : List (List Char) := linesFrom [] text

/-- The line that holds the character at an index, its number from one, and the column of the
character from zero. -/
def lineAt (number index : Nat) : List (List Char) → Option (Nat × List Char × Nat)
  | [] => none
  | line :: rest =>
    if index < line.length then some (number, line, index)
    else lineAt (number + 1) (index - line.length) rest

end Traversal.Text
