import Traversal.Query.Events
import Traversal.Query.Parse
import Traversal.Query.Pieces

/-! Walking over the pieces of a text. The walk takes the pieces as they come and makes the stream of
the query from them. It does not know the grammar: a piece that it has no use for, or one that it needs
and does not find, ends it, and so does a limit that does not fit a count. -/
namespace Traversal

/-- The identifier of a kind of piece. -/
def PieceKind.identifier : PieceKind → String
  | .construct .endOfQuery => "EOI"
  | .construct .query => "query"
  | .construct .startStatement => "start_statement"
  | .construct .nestedStatement => "nested_statement"
  | .construct .hop => "traversal_step"
  | .construct .union => "union"
  | .construct .vertex => "vertex"
  | .construct .block => "where_clause"
  | .construct .filter => "filter"
  | .construct .edgeFilter => "edge_filter"
  | .construct .limit => "limit"
  | .construct .label => "label"
  | .construct .store => "store"
  | .construct .negation => "negation"
  | .construct .boolean => "boolean"
  | .construct .number => "number"
  | .construct .integer => "integer"
  | .construct .quoted => "string_literal"
  | .content => "inner"

/-- What ends a walk: there is no piece at all, a piece stands inside another to which it does not
belong, a piece lacks its first part or all parts, a filter has no key, a block no statement, or a limit
does not fit a count. -/
inductive Misfit
  | nothingRead
  | misplaced (around : Construct) (kind : PieceKind)
  | firstMissing
  | insideMissing (kind : PieceKind)
  | keyMissing
  | statementMissing
  | limitTooLarge (digits : String)
  deriving Repr, DecidableEq

/-- What a user is told about a misfit. Pieces around others are named in words. -/
def Misfit.message : Misfit → String
  | .nothingRead => "Empty input"
  | .misplaced around kind =>
    let place := (PieceKind.construct around).identifier.map fun c => if c = '_' then ' ' else c
    s!"Unexpected rule in {place}: {kind.identifier}"
  | .firstMissing => "Expected another rule"
  | .insideMissing kind => s!"Expected inner rule of {kind.identifier}"
  | .keyMissing => "Filter without a key"
  | .statementMissing => "Where clause without traversal"
  | .limitTooLarge digits => s!"Invalid limit `{digits}`"

namespace Walk

/-- The text between quote marks, decoded. -/
def quotedText (piece : Piece) : Except Misfit String :=
  match piece.parts with
  | [] => .error (.insideMissing piece.kind)
  | content :: _ => .ok (String.ofList (Text.Quoted.decode content.text))

/-- A filter of which some pieces have been seen. -/
structure FilterDraft where
  negated : Bool := false
  key : Option String := none
  strings : List String := []
  numbers : List String := []
  booleans : List String := []

/-- The filter with one more piece. The first quoted text is its key. -/
def FilterDraft.add (draft : FilterDraft) (piece : Piece) : Except Misfit FilterDraft :=
  match piece.kind, draft.key with
  | .construct .negation, _ => .ok { draft with negated := true }
  | .construct .quoted, none => do return { draft with key := some (← quotedText piece) }
  | .construct .quoted, some _ => do
    return { draft with strings := draft.strings ++ [← quotedText piece] }
  | .construct .number, _ =>
    .ok { draft with numbers := draft.numbers ++ [String.ofList piece.text] }
  | .construct .boolean, _ =>
    .ok { draft with booleans := draft.booleans ++ [String.ofList piece.text] }
  | other, _ => .error (.misplaced .filter other)

/-- The filter of a piece. -/
def filter (piece : Piece) : Except Misfit FilterEvent := do
  let draft ← piece.parts.foldlM FilterDraft.add {}
  match draft.key with
  | none => .error .keyMissing
  | some key => return ⟨key, draft.negated, draft.strings, draft.numbers, draft.booleans⟩

/-- The event of an edge filter. -/
def edgeFilter (piece : Piece) : Except Misfit (List Event) := do
  return [.edgeFilter (← piece.parts.mapM quotedText)]

/-- The event of a limit, which has to fit a count. -/
def limit (piece : Piece) : Except Misfit (List Event) :=
  match piece.parts with
  | [] => .error (.insideMissing piece.kind)
  | digits :: _ =>
    match Text.boundedNatural Text.countBound digits.text with
    | some count => .ok [.limit count]
    | none => .error (.limitTooLarge (String.ofList digits.text))

/-- What the pieces inside a vertex come to: whether it is marked for output, the keys of its filters,
and the events between its entry and its exit. -/
structure VertexDraft where
  stored : Bool := false
  keys : List String := []
  events : List Event := []

mutual

/-- The stream of a vertex. Only a root reports its filter keys. -/
def vertex (root : Bool) : Piece → Except Misfit (List Event)
  | .mk _ _ [] => .error .firstMissing
  | .mk _ _ (name :: rest) => do
    let inside ← vertexParts rest
    let keys := if root then some inside.keys else none
    return .vertexEnter (String.ofList name.text) ::
      (inside.events ++ [.vertexExit inside.stored keys])

/-- The pieces inside a vertex behind its label. -/
def vertexParts : List Piece → Except Misfit VertexDraft
  | [] => .ok {}
  | part :: rest =>
    match part.kind with
    | .construct .store => do
      let others ← vertexParts rest
      return { others with stored := true }
    | .construct .filter => do
      let test ← filter part
      let others ← vertexParts rest
      return { others with
        keys := test.key :: others.keys, events := .propertyFilter test :: others.events }
    | .construct .block => do
      let events ← block part
      let others ← vertexParts rest
      return { others with events := events ++ others.events }
    | other => .error (.misplaced .vertex other)

/-- The stream of a block. -/
def block : Piece → Except Misfit (List Event)
  | .mk _ _ parts => do
    let (negated, inner) ← blockParts parts
    match inner with
    | none => .error .statementMissing
    | some statement => do
      let events ← statement
      return .whereEnter negated :: (events ++ [.whereExit negated])

/-- The pieces inside a block: whether it is negated, and its last statement, which is walked over
only when all pieces have been seen. -/
def blockParts : List Piece → Except Misfit (Bool × Option (Except Misfit (List Event)))
  | [] => .ok (false, none)
  | part :: rest =>
    match part.kind with
    | .construct .negation => do
      let others ← blockParts rest
      return (true, others.2)
    | .construct .nestedStatement => do
      let others ← blockParts rest
      return (others.1, others.2.or (some (statement part)))
    | other => .error (.misplaced .block other)

/-- The stream of a nested statement. -/
def statement : Piece → Except Misfit (List Event)
  | .mk _ _ parts => do
    let (events, hops) ← statementParts parts
    return .nestedEnter :: (events ++ [.nestedExit (1 + hops)])

/-- The pieces inside a nested statement, with the number of hops among them. -/
def statementParts : List Piece → Except Misfit (List Event × Nat)
  | [] => .ok ([], 0)
  | part :: rest =>
    match part.kind with
    | .construct .edgeFilter => do
      let events ← edgeFilter part
      let others ← statementParts rest
      return (events ++ others.1, others.2)
    | .construct .vertex => do
      let events ← vertex false part
      let others ← statementParts rest
      return (events ++ others.1, others.2)
    | .construct .hop => do
      let events ← hop part
      let others ← statementParts rest
      return (events ++ others.1, others.2 + 1)
    | other => .error (.misplaced .nestedStatement other)

/-- The stream of a hop. -/
def hop : Piece → Except Misfit (List Event)
  | .mk _ _ parts => hopParts parts

/-- The pieces inside a hop. -/
def hopParts : List Piece → Except Misfit (List Event)
  | [] => .ok []
  | part :: rest =>
    match part.kind with
    | .construct .edgeFilter => do return (← edgeFilter part) ++ (← hopParts rest)
    | .construct .vertex => do return (← vertex false part) ++ (← hopParts rest)
    | .construct .union => do return (← union part) ++ (← hopParts rest)
    | other => .error (.misplaced .hop other)

/-- The stream of a union. -/
def union : Piece → Except Misfit (List Event)
  | .mk _ _ parts => do
    let (events, stored) ← unionParts false parts
    return .unionEnter :: (events ++ [.unionExit stored])

/-- The pieces inside a union, and whether there is a mark for output among them. A comma stands in
front of every member but the first. -/
def unionParts (behind : Bool) : List Piece → Except Misfit (List Event × Bool)
  | [] => .ok ([], false)
  | part :: rest =>
    match part.kind with
    | .construct .nestedStatement => do
      let events ← statement part
      let others ← unionParts true rest
      return ((if behind then [.comma] else []) ++ (events ++ others.1), others.2)
    | .construct .store => do
      let others ← unionParts behind rest
      return (others.1, true)
    | other => .error (.misplaced .union other)

end

/-- The pieces inside the start statement behind its root. -/
def startParts : List Piece → Except Misfit (List Event)
  | [] => .ok []
  | part :: rest =>
    match part.kind with
    | .construct .hop => do return (← hop part) ++ (← startParts rest)
    | .construct .limit => do return (← limit part) ++ (← startParts rest)
    | other => .error (.misplaced .startStatement other)

/-- The stream of the start statement. -/
def startStatement (piece : Piece) : Except Misfit (List Event) :=
  match piece.parts with
  | [] => .error .firstMissing
  | root :: rest => do
    let first ← vertex true root
    let others ← startParts rest
    return .startEnter :: (first ++ others ++ [.startExit])

/-- The pieces inside a query. -/
def queryParts : List Piece → Except Misfit (List Event)
  | [] => .ok []
  | part :: rest =>
    match part.kind with
    | .construct .startStatement => do return (← startStatement part) ++ (← queryParts rest)
    | .construct .endOfQuery => queryParts rest
    | other => .error (.misplaced .query other)

/-- The stream of the first of some pieces. -/
def query : List Piece → Except Misfit (List Event)
  | [] => .error .nothingRead
  | piece :: _ => do return .queryEnter :: ((← queryParts piece.parts) ++ [.queryExit])

end Walk

/-- The stream of a text of the grammar, made from its pieces. -/
def walkEvents (text : String) : Option (Except Misfit (List Event)) :=
  (piecesOf text.toList).map Walk.query

end Traversal
