/-! Query trees: what a query text means before it is compiled. A query visits a root vertex and
then hops along edges. A vertex can be narrowed by clauses, a hop can branch into a union, and both
contain nested statements that start from the vertex they hang on. -/
namespace Traversal

/-- A value written in a filter. Numbers and booleans keep the letters in which they were written.
-/
inductive Literal
  | text (value : String)
  | number (digits : String)
  | boolean (word : String)
  deriving Repr, DecidableEq

/-- A test of one property against the values written after its key. -/
structure Filter where
  key : String
  negated : Bool
  values : List Literal
  deriving Repr, DecidableEq

mutual

/-- What narrows a vertex: a property filter, or a block that its surroundings must match. -/
inductive Clause
  | filter (test : Filter)
  | block (negated : Bool) (inner : Nested)

/-- A vertex with its type, its clauses in written order, and whether it is marked for output. -/
inductive Vertex
  | mk (label : String) (clauses : List Clause) (stored : Bool)

/-- Where a hop leads: to one vertex, or into the members of a union. -/
inductive Target
  | vertex (vertex : Vertex)
  | union (first : Nested) (others : List Nested) (stored : Bool)

/-- A step along an edge. Without labels any edge will do. -/
inductive Hop
  | mk (labels : List String) (target : Target)

/-- A statement inside a block or a union. Its labels constrain the edge to its first vertex. -/
inductive Nested
  | mk (labels : List String) (head : Vertex) (hops : List Hop)

end

/-- A whole query: the root vertex, the hops from it, and the largest number of results. -/
structure Query where
  root : Vertex
  hops : List Hop
  limit : Option Nat

/-- The type of a vertex. -/
def Vertex.label : Vertex → String
  | .mk label _ _ => label

/-- The clauses of a vertex in written order. -/
def Vertex.clauses : Vertex → List Clause
  | .mk _ clauses _ => clauses

/-- The key of a filter, and nothing for a block: the filters inside it belong to other vertices. -/
def Clause.key? : Clause → Option String
  | .filter test => some test.key
  | .block _ _ => none

/-- The keys of a vertex's own filters. -/
def Vertex.filterKeys (vertex : Vertex) : List String := vertex.clauses.filterMap Clause.key?

end Traversal
