import Traversal.Query.Grammar

/-! Pieces: what the grammar recognises in a text, before anything is made of it. A piece tells which
part of the grammar has recognised it, where in the text, and which pieces stand inside it. Brackets,
commas, arrows and keywords leave no pieces, nor does a choice between alternatives. -/
namespace Traversal

/-- What a piece is: a construct, or what stands between quote marks. -/
inductive PieceKind
  | construct (name : Construct)
  | content
  deriving Repr, DecidableEq

/-- A piece of a text with the pieces inside it, in written order. -/
inductive Piece
  | mk (kind : PieceKind) (text : List Char) (parts : List Piece)
  deriving Repr

/-- What a piece is. -/
def Piece.kind : Piece → PieceKind
  | .mk kind _ _ => kind

/-- The text of a piece. -/
def Piece.text : Piece → List Char
  | .mk _ text _ => text

/-- The pieces inside a piece. -/
def Piece.parts : Piece → List Piece
  | .mk _ _ parts => parts

namespace Pieces
open Reader
open Grammar (spaced afterComma)

/-- One piece of the text that a reader takes, around what it finds there. -/
def enclose (kind : PieceKind) (reader : Reader (List Piece)) : Reader (List Piece) := fun here =>
  let reading := reader here
  ⟨reading.found.map fun (parts, there) =>
    ([.mk kind (here.rest.take (there.index - here.index)) parts], there), reading.tried⟩

/-- A construct inside which there are pieces. -/
def whole (name : Construct) (reader : Reader (List Piece)) : Reader (List Piece) :=
  construct name (enclose (.construct name) reader)

/-- What a reader takes, as one piece without pieces inside. -/
def leaf {α : Type} (kind : PieceKind) (reader : Reader α) : Reader (List Piece) :=
  enclose kind do
    let _ ← reader
    return []

/-- The pieces that a reader finds, if it finds any. -/
def perhaps (reader : Reader (List Piece)) : Reader (List Piece) := do
  let found ← optional reader
  return found.getD []

/-- The pieces of as many items as there are. -/
def row (item : Reader (List Piece)) : Reader (List Piece) := do
  let found ← many (spaced item)
  return found.flatten

/-- A node type. -/
def label : Reader (List Piece) := leaf (.construct .label) Grammar.label

/-- The mark for output. -/
def store : Reader (List Piece) := leaf (.construct .store) Grammar.store

/-- The mark of a negated clause. -/
def negation : Reader (List Piece) := leaf (.construct .negation) Grammar.negation

/-- A truth value. -/
def boolean : Reader (List Piece) := leaf (.construct .boolean) Grammar.boolean

/-- A number. -/
def number : Reader (List Piece) := leaf (.construct .number) Grammar.number

/-- The digits of a limit. -/
def integer : Reader (List Piece) := leaf (.construct .integer) Grammar.integer

/-- The end of the text. -/
def endOfQuery : Reader (List Piece) := leaf (.construct .endOfQuery) Grammar.endOfQuery

/-- A text between quote marks. -/
def quoted : Reader (List Piece) :=
  whole .quoted do
    symbol Text.Quoted.mark
    let content ← leaf .content Grammar.quotedContent
    symbol Text.Quoted.mark
    return content

/-- A value of a filter. -/
def literal : Reader (List Piece) := orElse quoted (orElse boolean number)

/-- The opening parenthesis of a clause, with or without a mark of negation in front of it. -/
def opening : Reader (List Piece) := do
  let sign ← perhaps negation
  spaced (symbol '(')
  return sign

/-- A property filter. -/
def filter : Reader (List Piece) :=
  whole .filter do
    let sign ← opening
    let key ← spaced quoted
    let values ← row (afterComma literal)
    spaced (symbol ')')
    return sign ++ (key ++ values)

/-- The labels that an edge may have. -/
def edgeFilter : Reader (List Piece) :=
  whole .edgeFilter do
    symbol '('
    let first ← spaced quoted
    let others ← row (afterComma quoted)
    spaced (symbol ')')
    return first ++ others

/-- A limit on the number of results. -/
def limit : Reader (List Piece) :=
  whole .limit do
    let _ ← word "limit".toList
    spaced integer

section

variable (inner : Reader (List Piece))

/-- A block around a nested statement. -/
def block : Reader (List Piece) :=
  whole .block do
    let sign ← opening
    spaced (symbol '>')
    let nested ← spaced inner
    spaced (symbol ')')
    return sign ++ nested

/-- A clause of a vertex. -/
def clause : Reader (List Piece) := orElse (block inner) filter

/-- A vertex. -/
def vertex : Reader (List Piece) :=
  whole .vertex do
    let name ← label
    let early ← perhaps (spaced store)
    let clauses ← row (clause inner)
    let late ← perhaps (spaced store)
    return name ++ (early ++ (clauses ++ late))

/-- A union of nested statements. -/
def union : Reader (List Piece) :=
  whole .union do
    symbol '['
    let first ← spaced inner
    let others ← row (afterComma inner)
    spaced (symbol ']')
    let stored ← perhaps (spaced store)
    return first ++ (others ++ stored)

/-- A hop to a vertex or into a union. -/
def hop : Reader (List Piece) :=
  whole .hop do
    symbol '>'
    let labels ← perhaps (spaced edgeFilter)
    let target ← spaced (orElse (union inner) (vertex inner))
    return labels ++ target

/-- A nested statement whose own nested statements are read by `inner`. -/
def statement : Reader (List Piece) :=
  whole .nestedStatement do
    let labels ← perhaps edgeFilter
    let head ← spaced (vertex inner)
    let hops ← row (hop inner)
    return labels ++ (head ++ hops)

/-- The statement that a query consists of. -/
def startStatement : Reader (List Piece) :=
  whole .startStatement do
    let root ← vertex inner
    let hops ← row (hop inner)
    let digits ← perhaps (spaced limit)
    return root ++ (hops ++ digits)

end

/-- A nested statement in which statements are nested at most `depth` deep. -/
def nested : Nat → Reader (List Piece)
  | 0 => never
  | depth + 1 => statement (nested depth)

/-- A whole query text whose statements are nested at most `depth` deep. -/
def query (depth : Nat) : Reader (List Piece) :=
  whole .query do
    let statement ← spaced (startStatement (nested depth))
    let ended ← spaced endOfQuery
    return statement ++ ended

end Pieces

/-- The pieces of a text, if it is one of the grammar. Every nested statement takes at least one
character, so the length of the text bounds their nesting. -/
def piecesOf (text : List Char) : Option (List Piece) :=
  (Pieces.query (text.length + 1) ⟨0, text⟩).found.map Prod.fst

end Traversal
