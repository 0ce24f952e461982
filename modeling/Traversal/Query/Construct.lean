/-! Constructs: the parts of a query text that an error message can name as expected. -/
namespace Traversal

/-- The named parts of the grammar, in the order in which messages list them. -/
inductive Construct
  | endOfQuery
  | query
  | startStatement
  | nestedStatement
  | hop
  | union
  | vertex
  | block
  | filter
  | edgeFilter
  | limit
  | label
  | store
  | negation
  | boolean
  | number
  | integer
  | quoted
  deriving Repr, DecidableEq

namespace Construct

/-- All constructs in the order in which messages list them. -/
def all : List Construct :=
  [.endOfQuery, .query, .startStatement, .nestedStatement, .hop, .union, .vertex, .block, .filter,
    .edgeFilter, .limit, .label, .store, .negation, .boolean, .number, .integer, .quoted]

/-- What a message calls the construct. Two constructs that look alike share a name. -/
def name : Construct → String
  | .endOfQuery => "end of query"
  | .query | .startStatement => "query"
  | .nestedStatement => "nested traversal"
  | .hop => "`>`"
  | .union => "`[`"
  | .vertex | .label => "node type"
  | .block => "`(>`"
  | .filter | .edgeFilter => "`(`"
  | .limit => "`LIMIT`"
  | .store => "`*`"
  | .negation => "`!`"
  | .boolean => "boolean"
  | .number | .integer => "number"
  | .quoted => "quoted string"

/-- The given constructs, each once and in message order. -/
def inOrder (constructs : List Construct) : List Construct := all.filter constructs.contains

/-- Alternatives joined as a sentence lists them. -/
def alternatives : List String → String
  | [] => ""
  | [a] => a
  | [a, b] => s!"{a} or {b}"
  | names => ", ".intercalate names.dropLast ++ ", or " ++ names.getLastD ""

/-- The message about a place where one of the constructs was expected. -/
def expectation (constructs : List Construct) : String :=
  "expected " ++ alternatives ((inOrder constructs).map name)

end Construct

end Traversal
