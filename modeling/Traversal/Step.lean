import Traversal.Text.Quoted

/-! Steps: the builder calls of the generated traversal, and their text. -/
namespace Traversal

/-- A value of a filter step. -/
inductive Value
  | literal (text : String)
  | number (digits : String)
  | boolean (value : Bool)
  deriving Repr, DecidableEq

/-- One builder call, or one piece of a call that other calls stand inside. -/
inductive Step
  | start
  | startInstance
  | nodeType (label : String)
  | edge (source target : String) (labels : List String)
  | filter (node key : String) (negated : Bool) (values : List Value)
  | comma
  | limit (count : Nat)
  | unionOpen
  | unionClose
  | whereOpen (negated : Bool)
  | whereClose (negated : Bool)
  | store
  | collect (aggregate : Bool)
  deriving Repr, DecidableEq

/-- A text as the builder's language quotes it. -/
def quoteText (text : String) : List Char := Text.Quoted.quote text.toList

/-- Items between brackets. -/
def listText (items : List (List Char)) : List Char :=
  '[' :: (", ".toList.intercalate items ++ [']'])

/-- A call with its arguments. -/
def callText (function : String) (arguments : List (List Char)) : List Char :=
  '.' :: (function.toList ++ '(' :: (", ".toList.intercalate arguments ++ [')']))

namespace Value

/-- The letters of a truth value. -/
def boolText (b : Bool) : List Char := if b then "true".toList else "false".toList

/-- The value as it stands in the generated text. Only literals are quoted. -/
def text : Value → List Char
  | .literal text => quoteText text
  | .number digits => digits.toList
  | .boolean b => boolText b

/-- The value without quotes. A boolean is in small letters, whatever the case in which it was
written. -/
def raw : Value → String
  | .literal text => text
  | .number digits => digits
  | .boolean b => String.ofList (boolText b)

end Value

namespace Step

/-- The property that holds a vertex's type. -/
def nodeTypeKey : String := "aai-node-type"

/-- The name under which output is stored and collected. -/
def storeKey : String := "x"

/-- The call of a filter step. A filter without values asks whether the property is there; a single
truth value has a call of its own; several values are given as a list. -/
def filterText (key : String) (negated : Bool) (values : List Value) : List Char :=
  match values, negated with
  | [], false => callText "has" [quoteText key]
  | [], true => callText "hasNot" [quoteText key]
  | [.boolean b], false =>
    callText "getVerticesByBooleanProperty" [quoteText key, Value.boolText b]
  | [.boolean b], true =>
    callText "getVerticesExcludeByBooleanProperty" [quoteText key, Value.boolText b]
  | [value], false => callText "getVerticesByProperty" [quoteText key, value.text]
  | [value], true => callText "getVerticesExcludeByProperty" [quoteText key, value.text]
  | values, false =>
    callText "getVerticesByProperty" [quoteText key, listText (values.map Value.text)]
  | values, true =>
    callText "getVerticesExcludeByProperty" [quoteText key, listText (values.map Value.text)]

/-- The call of an edge step. Its labels are given only if there are any. -/
def edgeText (source target : String) (labels : List String) : List Char :=
  if labels.isEmpty then callText "createEdgeTraversal" [quoteText source, quoteText target]
  else callText "createEdgeTraversalWithLabels"
    [quoteText source, quoteText target, listText (labels.map quoteText)]

/-- The text of a step. -/
def text : Step → List Char
  | .start => "builder".toList
  | .startInstance => "builder.newInstance()".toList
  | .nodeType label => callText "getVerticesByProperty" [quoteText nodeTypeKey, quoteText label]
  | .edge source target labels => edgeText source target labels
  | .filter _ key negated values => filterText key negated values
  | .comma => [',']
  | .limit count => callText "limit" [(toString count).toList]
  | .unionOpen => ".union(".toList
  | .unionClose => [')']
  | .whereOpen false => ".where(".toList
  | .whereOpen true => ".where(builder.newInstance().not(".toList
  | .whereClose false => [')']
  | .whereClose true => "))".toList
  | .store => callText "store" [quoteText storeKey]
  | .collect false => callText "cap" [quoteText storeKey] ++ ".unfold().dedup()".toList
  | .collect true => callText "cap" [quoteText storeKey]

/-- The text of several steps, one after the other. -/
def textOfList (steps : List Step) : String := String.ofList (steps.flatMap text)

end Step

end Traversal
