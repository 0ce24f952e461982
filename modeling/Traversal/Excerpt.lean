import Traversal.Query.Parse
import Traversal.Text.Boundary
import Traversal.Text.Lines
import Traversal.Text.Space
import Traversal.Text.Style
import Traversal.Text.Width

/-! Excerpts: the line of a query text at which an error stands, with the marked characters
underlined and the message below them. -/
namespace Traversal.Excerpt
open Text (Style)

/-- The stretch that an excerpt marks. Both ends are moved outwards to boundaries of the text; an
empty stretch gives way to the character in front of it or, at the start, to the one behind it. An
empty text has no stretch to mark. -/
def markedRange (text : List Char) (start stop : Nat) : Option (Nat × Nat) :=
  let first := Text.floorBoundary text start
  let past := Text.ceilBoundary text (max stop first)
  if first < past then some (first, past)
  else if 0 < first then some (Text.floorBoundary text (first - 1), past)
  else if text.isEmpty then none
  else some (0, Text.ceilBoundary text 1)

/-- The style of the mark. -/
def markStyle : Style := ⟨"31", Style.reset⟩

/-- A colour of the terminal's palette. -/
def paletteStyle (index : Nat) : Style := ⟨s!"38;5;{index}", Style.reset⟩

/-- The style of frame and line number. -/
def frameStyle : Style := paletteStyle 246

/-- The style of the frame beside lines that are not from the text. -/
def gutterStyle : Style := paletteStyle 240

/-- The style of characters that are not marked. -/
def plainStyle : Style := paletteStyle 249

/-- The style of the word in front of advice. -/
def adviceStyle : Style := paletteStyle 115

/-- Tabs lead to columns that are multiples of this number. -/
def tabWidth : Nat := 4

/-- The number of columns that a character takes when it is the given one of its line. -/
def drawnWidth (column : Nat) (c : Char) : Nat :=
  if c = '\t' then (column / tabWidth + 1) * tabWidth - column
  else if Text.isSpace c then 1
  else Text.charWidth c

/-- The same text several times in a row. -/
def repeated (count : Nat) (text : String) : String := String.join (List.replicate count text)

/-- A line from which characters are marked, from the column `first` up to but not including `past`.
-/
structure MarkedLine where
  characters : List Char
  first : Nat
  past : Nat

namespace MarkedLine

/-- Whether the mark covers a column. -/
def covers (line : MarkedLine) (column : Nat) : Bool := line.first ≤ column && column < line.past

/-- The column in the middle of the mark, from which the arrow to the message starts. -/
def middle (line : MarkedLine) : Nat := line.first + (line.past - line.first) / 2

/-- The number of columns below which the arrow is drawn: two more than the mark reaches. -/
def reach (line : MarkedLine) : Nat := line.past + 2

/-- The drawn width of a column. Behind the end of the line it is one. -/
def widthAt (line : MarkedLine) (column : Nat) : Nat :=
  match line.characters[column]? with
  | some c => drawnWidth column c
  | none => 1

/-- The characters of the line, the marked ones in the style of the mark. White space is drawn as
blanks. -/
def source (line : MarkedLine) : String :=
  String.join <| line.characters.zipIdx.map fun (c, column) =>
    let style := if line.covers column then markStyle else plainStyle
    if Text.isSpace c then repeated (drawnWidth column c) (style.paint " ")
    else style.paint (String.singleton c)

/-- A mark of the given width that begins with one sign and goes on with another. -/
def stroke (width : Nat) (head tail : String) : String :=
  String.join ((List.replicate width tail).zipIdx.map fun (sign, index) =>
    markStyle.paint (if index = 0 then head else sign))

/-- The underline of the mark, which branches off at its middle. -/
def underline (line : MarkedLine) : String :=
  String.join <| (List.range line.reach).map fun column =>
    let width := line.widthAt column
    if column = line.middle then stroke width "┬" "─"
    else if line.covers column then stroke width "─" "─"
    else repeated width " "

/-- The arrow from the middle of the mark to the message. -/
def arrow (line : MarkedLine) : String :=
  String.join <| (List.range line.reach).map fun column =>
    let width := line.widthAt column
    if column = line.middle then stroke width "╰" "─"
    else if line.middle < column then stroke width "─" "─"
    else repeated width " "

end MarkedLine

/-- The advice below every excerpt. -/
def advice : String := "traversals look like `pnf*('prov-status','in_service') > pserver`"

/-- The excerpt for a message about marked characters of the line with a number. -/
def frame (name message : String) (number : Nat) (line : MarkedLine) : String :=
  let width := (toString number).length
  let margin := repeated (width + 2) " "
  let gutter := " " ++ gutterStyle.paint (repeated (width + 1) " " ++ "│") ++ " "
  let corner := frameStyle.paint "╭" ++ frameStyle.paint "─" ++ frameStyle.paint "["
  String.join <| [
    markStyle.paint "[PARSE_ERROR] Error:" ++ " invalid traversal query",
    s!"{margin}{corner} {name}:{number}:{line.first + 1} " ++ frameStyle.paint "]",
    margin ++ frameStyle.paint "│",
    " " ++ frameStyle.paint s!"{number} │" ++ " " ++ line.source,
    gutter ++ line.underline,
    gutter ++ line.arrow ++ " " ++ message,
    gutter,
    gutter ++ adviceStyle.paint "Help" ++ ": " ++ advice,
    frameStyle.paint (repeated (width + 2) "─" ++ "╯")].map (· ++ "\n")

/-- What is shown when there is no text to mark. -/
def bare (message : String) : String := s!"[PARSE_ERROR] error: {message}"

/-- What is shown for an error in a text of a given name. -/
def render (diagnostic : Diagnostic) (text : List Char) (name : String) : String :=
  match diagnostic.place with
  | none => bare diagnostic.detail
  | some place =>
    match markedRange text place.start place.stop with
    | none => bare diagnostic.detail
    | some (first, past) =>
      let index := Text.charactersBefore text first
      let count := Text.charactersBefore text past - index
      match Text.lineAt 1 index (Text.lines text) with
      | none => bare diagnostic.detail
      | some (number, line, column) =>
        frame name diagnostic.detail number ⟨Text.trimEnd line, column, column + count⟩

end Traversal.Excerpt
