/-! Events: a query as a linear stream. A stream made from a query tree opens and closes its parts
in strictly nested order; a stream from elsewhere need not, and is an input all the same. -/
namespace Traversal

/-- A property filter as the stream carries it: its values sorted by kind, each kind in written
order. -/
structure FilterEvent where
  key : String
  negated : Bool
  strings : List String
  numbers : List String
  booleans : List String
  deriving Repr, DecidableEq

/-- One event of the stream. The count of a nested exit is the number of vertices that the statement
left on the path; the keys of a vertex exit are given for a root vertex only. -/
inductive Event
  | queryEnter
  | queryExit
  | startEnter
  | startExit
  | nestedEnter
  | nestedExit (count : Nat)
  | vertexEnter (label : String)
  | vertexExit (stored : Bool) (keys : Option (List String))
  | comma
  | edgeFilter (labels : List String)
  | propertyFilter (filter : FilterEvent)
  | limit (count : Nat)
  | unionEnter
  | unionExit (stored : Bool)
  | whereEnter (negated : Bool)
  | whereExit (negated : Bool)
  deriving Repr, DecidableEq

namespace Event

/-- The way a list is written in an event's text. -/
def listText (items : List String) : String := "[" ++ ", ".intercalate items ++ "]"

/-- The way a truth value is written in an event's text. -/
def boolText (b : Bool) : String := if b then "true" else "false"

/-- The display form of an event. -/
def text : Event → String
  | .queryEnter => "query-enter"
  | .queryExit => "query-exit"
  | .startEnter => "start-enter"
  | .startExit => "start-exit"
  | .nestedEnter => "nested-enter"
  | .nestedExit count => s!"nested-exit({count})"
  | .vertexEnter label => s!"vertex-enter({label})"
  | .vertexExit stored none => s!"vertex-exit(store={boolText stored})"
  | .vertexExit stored (some keys) => s!"vertex-exit(store={boolText stored}, keys={listText keys})"
  | .comma => "comma"
  | .edgeFilter labels => s!"edge-filter({listText labels})"
  | .propertyFilter f =>
    s!"property-filter({f.key}, negated={boolText f.negated}, strings={listText f.strings}, " ++
      s!"numbers={listText f.numbers}, booleans={listText f.booleans})"
  | .limit count => s!"limit({count})"
  | .unionEnter => "union-enter"
  | .unionExit stored => s!"union-exit(store={boolText stored})"
  | .whereEnter negated => s!"where-enter(negated={boolText negated})"
  | .whereExit negated => s!"where-exit(negated={boolText negated})"

end Event

end Traversal
