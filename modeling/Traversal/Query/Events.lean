import Traversal.Event
import Traversal.Query.Basic

/-! The stream of a query tree: every part of the tree is opened, its own parts follow in written
order, and it is closed. -/
namespace Traversal

/-- The string values among the literals. -/
def Literal.text? : Literal → Option String
  | .text value => some value
  | _ => none

/-- The numeric values among the literals. -/
def Literal.number? : Literal → Option String
  | .number digits => some digits
  | _ => none

/-- The boolean values among the literals. -/
def Literal.boolean? : Literal → Option String
  | .boolean word => some word
  | _ => none

/-- A filter with its values sorted by kind. -/
def Filter.event (filter : Filter) : FilterEvent where
  key := filter.key
  negated := filter.negated
  strings := filter.values.filterMap Literal.text?
  numbers := filter.values.filterMap Literal.number?
  booleans := filter.values.filterMap Literal.boolean?

/-- The event in front of an edge whose labels are constrained, and nothing for any other edge. -/
def labelEvents : List String → List Event
  | [] => []
  | labels => [.edgeFilter labels]

mutual

/-- The stream of a clause. -/
def Clause.events : Clause → List Event
  | .filter test => [.propertyFilter test.event]
  | .block negated inner => .whereEnter negated :: (inner.events ++ [.whereExit negated])

/-- The streams of several clauses in order. -/
def Clause.eventsOfList : List Clause → List Event
  | [] => []
  | clause :: rest => clause.events ++ Clause.eventsOfList rest

/-- The stream of a vertex, with the keys that its exit reports. -/
def Vertex.events : Vertex → Option (List String) → List Event
  | .mk label clauses stored, keys =>
    .vertexEnter label :: (Clause.eventsOfList clauses ++ [.vertexExit stored keys])

/-- The stream of the place where a hop leads. -/
def Target.events : Target → List Event
  | .vertex vertex => vertex.events none
  | .union first others stored =>
    .unionEnter :: (first.events ++ Nested.eventsOfOthers others ++ [.unionExit stored])

/-- The stream of a hop. -/
def Hop.events : Hop → List Event
  | .mk labels target => labelEvents labels ++ target.events

/-- The streams of several hops in order. -/
def Hop.eventsOfList : List Hop → List Event
  | [] => []
  | hop :: rest => hop.events ++ Hop.eventsOfList rest

/-- The stream of a nested statement, which leaves its first vertex and one vertex a hop on the
path. -/
def Nested.events : Nested → List Event
  | .mk labels head hops =>
    .nestedEnter :: (labelEvents labels ++ head.events none ++ Hop.eventsOfList hops ++
      [.nestedExit (1 + hops.length)])

/-- The streams of the members of a union after the first, each behind a comma. -/
def Nested.eventsOfOthers : List Nested → List Event
  | [] => []
  | member :: rest => .comma :: (member.events ++ Nested.eventsOfOthers rest)

end

/-- The event of a limit, if there is one. -/
def limitEvents : Option Nat → List Event
  | none => []
  | some count => [.limit count]

/-- The stream of a query. Its root vertex alone reports its filter keys. -/
def Query.events (query : Query) : List Event :=
  .queryEnter :: .startEnter ::
    (query.root.events (some query.root.filterKeys) ++ Hop.eventsOfList query.hops ++
      limitEvents query.limit ++ [.startExit, .queryExit])

end Traversal
