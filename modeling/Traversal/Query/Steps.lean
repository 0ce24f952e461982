import Traversal.Event.Values
import Traversal.Query.Events

/-! The steps of a query tree, by recursion on the tree alone. Every part is told from which
vertex it is reached; nothing else about its surroundings matters. -/
namespace Traversal

mutual

/-- The type of the vertex at which a nested statement ends. -/
def Nested.result : Nested → String
  | .mk _ head hops => Hop.resultOfList head.label hops

/-- The type of the vertex at which a hop ends: for a union, where its first member ends. -/
def Target.result : Target → String
  | .vertex vertex => vertex.label
  | .union first _ _ => first.result

/-- The type of the vertex at which a hop ends. -/
def Hop.result : Hop → String
  | .mk _ target => target.result

/-- The type of the vertex at which several hops from a source end. -/
def Hop.resultOfList (source : String) : List Hop → String
  | [] => source
  | hop :: rest => Hop.resultOfList hop.result rest

end

/-- What a written value stands for in a comparison. -/
def Literal.value : Literal → Value
  | .text written => .literal written
  | .number digits => .number digits
  | .boolean word => booleanValue word

/-- The place of a value's kind among the values of a step: strings, numbers, booleans. -/
def Literal.rank : Literal → Nat
  | .text _ => 0
  | .number _ => 1
  | .boolean _ => 2

/-- The values of a filter's step: sorted by kind, each kind in written order, without those that
repeat the filter's key. -/
def Filter.comparisons (filter : Filter) : List Value :=
  let sorted := [0, 1, 2].flatMap fun rank => filter.values.filter (·.rank = rank)
  (sorted.map Literal.value).filter fun value => value.raw != filter.key

/-- The step that stores a marked vertex, and nothing for any other. -/
def storeSteps (stored : Bool) : List Step := if stored then [.store] else []

/-- The labels that constrain an edge: those written at the vertex that it enters, or, without any,
those written in front of the union. -/
def chosenLabels (own inherited : List String) : List String :=
  if own.isEmpty then inherited else own

mutual

/-- The steps of a clause of a vertex. -/
def Clause.steps (node : String) : Clause → List Step
  | .filter test => [.filter node test.key test.negated test.comparisons]
  | .block negated inner =>
    .whereOpen negated :: .startInstance :: (inner.steps node [] ++ [.whereClose negated])

/-- The steps of several clauses of a vertex. -/
def Clause.stepsOfList (node : String) : List Clause → List Step
  | [] => []
  | clause :: rest => clause.steps node ++ Clause.stepsOfList node rest

/-- The steps of a vertex behind the one that enters it. -/
def Vertex.innerSteps : Vertex → List Step
  | .mk label clauses stored => Clause.stepsOfList label clauses ++ storeSteps stored

/-- The steps of the place where a hop leads. -/
def Target.steps (source : String) (labels : List String) : Target → List Step
  | .vertex vertex => .edge source vertex.label labels :: vertex.innerSteps
  | .union first others stored =>
    .unionOpen :: .startInstance :: (first.steps source labels ++
      Nested.stepsOfOthers source others ++ .unionClose :: storeSteps stored)

/-- The steps of a hop from a source. -/
def Hop.steps (source : String) : Hop → List Step
  | .mk labels target => target.steps source labels

/-- The steps of several hops, each from where the one before it ends. -/
def Hop.stepsOfList (source : String) : List Hop → List Step
  | [] => []
  | hop :: rest => hop.steps source ++ Hop.stepsOfList hop.result rest

/-- The steps of a nested statement behind the one that begins it. -/
def Nested.steps (source : String) (inherited : List String) : Nested → List Step
  | .mk labels head hops =>
    .edge source head.label (chosenLabels labels inherited) ::
      (head.innerSteps ++ Hop.stepsOfList head.label hops)

/-- The steps of the members of a union after the first, all from the source of the union. -/
def Nested.stepsOfOthers (source : String) : List Nested → List Step
  | [] => []
  | member :: rest =>
    .comma :: .startInstance :: (member.steps source [] ++ Nested.stepsOfOthers source rest)

end

/-- The step of a limit, if there is one. -/
def limitSteps : Option Nat → List Step
  | none => []
  | some count => [.limit count]

/-- The steps of a query. -/
def Query.steps (aggregate : Bool) (query : Query) : List Step :=
  .start :: .nodeType query.root.label ::
    (query.root.innerSteps ++ Hop.stepsOfList query.root.label query.hops ++
      limitSteps query.limit ++ [.collect aggregate])

end Traversal
