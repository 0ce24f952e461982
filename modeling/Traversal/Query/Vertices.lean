import Traversal.Query.Basic

/-! The vertices of a query tree, wherever they stand in it: on the way of the query, in the members of
unions or in blocks. -/
namespace Traversal

mutual

/-- The types of the vertices in a clause. A filter has none. -/
def Clause.vertices : Clause → List String
  | .filter _ => []
  | .block _ inner => inner.vertices

/-- The types of the vertices in several clauses. -/
def Clause.verticesOfList : List Clause → List String
  | [] => []
  | clause :: rest => clause.vertices ++ Clause.verticesOfList rest

/-- The type of a vertex and of those inside it, in written order. -/
def Vertex.vertices : Vertex → List String
  | .mk label clauses _ => label :: Clause.verticesOfList clauses

/-- The types of the vertices where a hop leads. -/
def Target.vertices : Target → List String
  | .vertex vertex => vertex.vertices
  | .union first others _ => first.vertices ++ Nested.verticesOfList others

/-- The types of the vertices of a hop. -/
def Hop.vertices : Hop → List String
  | .mk _ target => target.vertices

/-- The types of the vertices of several hops. -/
def Hop.verticesOfList : List Hop → List String
  | [] => []
  | hop :: rest => hop.vertices ++ Hop.verticesOfList rest

/-- The types of the vertices of a nested statement. -/
def Nested.vertices : Nested → List String
  | .mk _ head hops => head.vertices ++ Hop.verticesOfList hops

/-- The types of the vertices of several nested statements. -/
def Nested.verticesOfList : List Nested → List String
  | [] => []
  | member :: rest => member.vertices ++ Nested.verticesOfList rest

end

/-- The types of all vertices that are written in a query, in written order. -/
def Query.vertices (query : Query) : List String :=
  query.root.vertices ++ Hop.verticesOfList query.hops

end Traversal
