/-! Schemas: which node types there are, with which properties, and which edges may join them. A
traversal may follow an edge against its direction. -/
namespace Traversal

/-- Whether an edge is a containment edge or joins peers. -/
inductive EdgeKind
  | tree
  | cousin
  deriving Repr, DecidableEq

/-- The word for a kind of edge. -/
def EdgeKind.text : EdgeKind → String
  | .tree => "tree"
  | .cousin => "cousin"

/-- An edge that may join two node types. -/
structure EdgeRule where
  source : String
  target : String
  label : String
  kind : EdgeKind
  deriving Repr, DecidableEq

/-- A rule joins its two types in either direction. -/
def EdgeRule.joins (rule : EdgeRule) (a b : String) : Bool :=
  (rule.source == a && rule.target == b) || (rule.source == b && rule.target == a)

/-- What a compilation asks of a schema: the rules for an edge, none if it is illegal, and the
properties of a type, if the type is known. -/
structure SchemaView where
  edgeRules : String → String → List EdgeRule
  properties : String → Option (List String)

/-- A schema in memory. Types stand in order of first mention, properties in order of first mention
within their type. -/
structure Schema where
  nodes : List (String × List String)
  edges : List EdgeRule
  deriving Repr, DecidableEq

namespace Schema

/-- The schema without types and edges. -/
def empty : Schema := ⟨[], []⟩

/-- A list without an item's later occurrences. -/
def extend (known : List String) (added : List String) : List String :=
  added.foldl (fun list item => if list.contains item then list else list ++ [item]) known

/-- The types with properties added to one of them, which is put last if it is new. -/
def addProperties (type : String) (properties : List String) :
    List (String × List String) → List (String × List String)
  | [] => [(type, extend [] properties)]
  | (name, known) :: rest =>
    if name = type then (name, extend known properties) :: rest
    else (name, known) :: addProperties type properties rest

/-- The schema with a type, or with more properties of a type that it has. -/
def withNode (schema : Schema) (type : String) (properties : List String) : Schema :=
  { schema with nodes := addProperties type properties schema.nodes }

/-- The schema with one more edge rule. -/
def withEdge (schema : Schema) (source target label : String) (kind : EdgeKind) : Schema :=
  { schema with edges := schema.edges ++ [⟨source, target, label, kind⟩] }

/-- The rules for an edge between two types, in the order in which they were added. -/
def edgeRules (schema : Schema) (a b : String) : List EdgeRule :=
  schema.edges.filter (·.joins a b)

/-- The properties of a type, if the type is known. -/
def properties (schema : Schema) (type : String) : Option (List String) :=
  (schema.nodes.find? (·.1 = type)).map (·.2)

/-- The answers of a schema. -/
def view (schema : Schema) : SchemaView := ⟨schema.edgeRules, schema.properties⟩

end Schema

end Traversal
