import Traversal.Compiler.Machine

/-! The machine without scopes. It has one list of steps and one list of errors, to the end of which
it adds and which nothing else touches; statements neither open nor close anything in them. All other
parts of the state are those of the machine with scopes, and every event does the same to them. -/
namespace Traversal.Compiler

/-- The state of a compilation without scopes. The lists that act as stacks, `nodes`, `results` and
`openVertices`, hold their top first; the others hold their oldest item first. -/
structure Flat where
  steps : List Step := []
  errors : List SchemaError := []
  nodes : List String := []
  results : List (List String) := []
  edgeLog : EdgeLog := []
  nodeCount : Nat := 0
  outputMarked : Bool := false
  pendingLabels : List String := []
  openVertices : List String := []
  deriving Repr, DecidableEq

namespace Flat

/-- The type of the vertex at the end of the path. -/
def current (flat : Flat) : Option String := flat.nodes.head?

/-- Adds steps at the end. -/
def emit (steps : List Step) (flat : Flat) : Flat := { flat with steps := flat.steps ++ steps }

/-- Adds errors at the end. -/
def report (errors : List SchemaError) (flat : Flat) : Flat :=
  { flat with errors := flat.errors ++ errors }

/-- Emits the step that marks output, if asked to. -/
def markOutput (stored : Bool) (flat : Flat) : Flat :=
  { flat.emit (if stored then [.store] else []) with outputMarked := flat.outputMarked || stored }

/-- Follows an edge, with the pending labels and with the schema's objections. -/
def followEdge (context : Context) (source label : String) (flat : Flat) : Flat :=
  let errors := match context.view with
    | some view => edgeErrors view source label flat.pendingLabels
    | none => []
  { (flat.report errors).emit [.edge source label flat.pendingLabels] with
    pendingLabels := []
    edgeLog := flat.edgeLog ++ [(source, label)] }

/-- Puts a vertex on the path and among the open ones. -/
def enter (label : String) (flat : Flat) : Flat :=
  { flat with nodes := label :: flat.nodes, openVertices := label :: flat.openVertices }

/-- Takes a vertex off the open ones. -/
def leave (flat : Flat) : Flat :=
  { flat with
    openVertices := flat.openVertices.tail
    pendingLabels := []
    nodeCount := flat.nodeCount + 1 }

/-- The schema's objections to the keys that a vertex reports, if the settings ask for them. -/
def keyErrors (context : Context) (keys : Option (List String)) (flat : Flat) : List SchemaError :=
  match context.settings.validateStructure, flat.openVertices.head?, keys, context.view with
  | true, some label, some keys, some view => Compiler.keyErrors view label keys
  | _, _, _, _ => []

/-- Ends a nested statement: the end of the path is its result, and what it put on the path goes. -/
def exitNested (count : Nat) (flat : Flat) : Flat :=
  { flat with
    nodes := flat.nodes.drop count
    results := match flat.current with
      | some result => State.collect result flat.results
      | none => flat.results }

/-- Ends a union: the result of its first member becomes the end of the path. -/
def exitUnion (flat : Flat) : Flat :=
  let result := match flat.results with
    | (first :: _) :: _ => [first]
    | _ => []
  { flat with results := flat.results.tail, nodes := result ++ flat.nodes }

/-- Processes one event. -/
def process (context : Context) (flat : Flat) : Event → Flat
  | .queryEnter | .queryExit => flat
  | .startEnter => flat.emit [.start]
  | .startExit =>
    { flat.emit [.collect context.settings.aggregate] with nodes := flat.nodes.drop 1 }
  | .nestedEnter => flat.emit [.startInstance]
  | .nestedExit count => flat.exitNested count
  | .vertexEnter label =>
    match flat.current with
    | some source => (flat.followEdge context source label).enter label
    | none => (flat.emit [.nodeType label]).enter label
  | .vertexExit stored keys =>
    ((flat.report (flat.keyErrors context keys)).markOutput stored).leave
  | .comma => flat.emit [.comma]
  | .edgeFilter labels => { flat with pendingLabels := labels }
  | .propertyFilter filter =>
    match flat.current with
    | some node => flat.emit [.filter node filter.key filter.negated filter.values]
    | none => flat
  | .limit count => flat.emit [.limit count]
  | .unionEnter => { flat.emit [.unionOpen] with results := [] :: flat.results }
  | .unionExit stored => (flat.exitUnion.emit [.unionClose]).markOutput stored
  | .whereEnter negated => { flat.emit [.whereOpen negated] with results := [] :: flat.results }
  | .whereExit negated => { flat.emit [.whereClose negated] with results := flat.results.tail }

/-- Processes a stream. -/
def processAll (context : Context) (flat : Flat) (events : List Event) : Flat :=
  events.foldl (process context) flat

/-- The text of all steps, or, if there are any errors, all of them. -/
def assemble (flat : Flat) : Except (List SchemaError) String :=
  match flat.errors with
  | [] => .ok (Step.textOfList flat.steps)
  | errors => .error errors

/-- Judges a finished compilation, by the violations themselves. -/
def finish (context : Context) (flat : Flat) : Except Rejection CompiledQuery :=
  if !flat.outputMarked then .error .noOutput
  else match flat.assemble with
    | .error errors => .error (.schema (errors.map SchemaError.message))
    | .ok query =>
      match violations context.settings.rules flat.edgeLog flat.nodeCount
          context.settings.maxNodeCount with
      | [] => .ok ⟨query, context.settings.aggregate, flat.nodeCount, flat.edgeLog.length⟩
      | broken => .error (.rules broken)

end Flat

end Traversal.Compiler
