import Traversal.Compiler.State
import Traversal.Event.Values
import Traversal.Rejection
import Traversal.Schema
import Traversal.Settings

/-! The machine that turns a stream of events into steps. It accepts every stream: an event that
finds the state not as a well-formed stream would have left it does what it still can. -/
namespace Traversal

/-- A compiled query: its text, whether its result is aggregated, and how many vertices it visits
and edges it follows. -/
structure CompiledQuery where
  query : String
  aggregate : Bool
  nodeCount : Nat
  edgeCount : Nat
  deriving Repr, DecidableEq

namespace Compiler

/-- What a compilation reads and never changes. -/
structure Context where
  settings : Settings
  view : Option SchemaView

/-- A schema's objections to an edge: one if it knows no rule for it, and otherwise one for each
label that no rule has. -/
def edgeErrors (view : SchemaView) (source target : String) (labels : List String) :
    List SchemaError :=
  let rules := view.edgeRules source target
  if rules.isEmpty then [.noEdge source target]
  else (labels.filter fun label => !rules.any (·.label == label)).map (.noEdgeLabel source target ·)

/-- A schema's objections to filter keys: one if it does not know the type, and otherwise one for
each key that the type does not have. -/
def keyErrors (view : SchemaView) (type : String) (keys : List String) : List SchemaError :=
  match view.properties type with
  | none => [.unknownType type]
  | some known => (keys.filter fun key => !known.contains key).map (.unknownKey · type)

namespace State

/-- Enters a vertex: by an edge from the end of the path, which takes the pending labels with it, or
as the root if the path is empty. -/
def enterVertex (context : Context) (label : String) (state : State) : State :=
  let reached := match state.current with
    | some source =>
      let errors := match context.view with
        | some view => edgeErrors view source label state.pendingLabels
        | none => []
      let emitted := (state.report errors).emit (.edge source label state.pendingLabels)
      { emitted with pendingLabels := [], edgeLog := state.edgeLog ++ [(source, label)] }
    | none => state.emit (.nodeType label)
  { reached with nodes := label :: reached.nodes, openVertices := label :: reached.openVertices }

/-- Leaves a vertex. Its keys, if it has any to report, are checked if the settings ask for it. -/
def exitVertex (context : Context) (stored : Bool) (keys : Option (List String))
    (state : State) : State :=
  let errors := match context.settings.validateStructure, state.openVertices.head?, keys,
      context.view with
    | true, some label, some keys, some view => keyErrors view label keys
    | _, _, _, _ => []
  let marked := (state.report errors).markOutput stored
  { marked with
    openVertices := state.openVertices.tail
    pendingLabels := []
    nodeCount := state.nodeCount + 1 }

/-- Ends a nested statement: the end of the path is its result, and what it put on the path goes. -/
def exitNested (count : Nat) (state : State) : State :=
  let shortened := { state with nodes := state.nodes.drop count }
  match state.current with
  | some result => shortened.collectResult result
  | none => shortened

/-- Ends a union: the result of its first member becomes the end of the path. -/
def exitUnion (stored : Bool) (state : State) : State :=
  let result := match state.results with
    | (first :: _) :: _ => [first]
    | _ => []
  let closed := { state with results := state.results.tail, nodes := result ++ state.nodes }
  (closed.emit .unionClose).markOutput stored

/-- Applies a filter to the vertex at the end of the path. Without such a vertex it is dropped. -/
def applyFilter (filter : FilterEvent) (state : State) : State :=
  match state.current with
  | some node => state.emit (.filter node filter.key filter.negated filter.values)
  | none => state

/-- Processes one event. -/
def process (context : Context) (state : State) : Event → State
  | .queryEnter => state.openScope []
  | .queryExit => state
  | .startEnter => state.emit .start
  | .startExit =>
    let emitted := state.emit (.collect context.settings.aggregate)
    { emitted with nodes := state.nodes.drop 1 }
  | .nestedEnter => state.openScope [.startInstance]
  | .nestedExit count => state.exitNested count
  | .vertexEnter label => state.enterVertex context label
  | .vertexExit stored keys => state.exitVertex context stored keys
  | .comma => state.emit .comma
  | .edgeFilter labels => { state with pendingLabels := labels }
  | .propertyFilter filter => state.applyFilter filter
  | .limit count => state.emit (.limit count)
  | .unionEnter => { state.emit .unionOpen with results := [] :: state.results }
  | .unionExit stored => state.exitUnion stored
  | .whereEnter negated => { state.emit (.whereOpen negated) with results := [] :: state.results }
  | .whereExit negated =>
    { state.emit (.whereClose negated) with results := state.results.tail }

/-- Processes a stream. -/
def processAll (context : Context) (state : State) (events : List Event) : State :=
  events.foldl (process context) state

/-- Judges a finished compilation: output has to be marked, the schema must not object, and the cost
rules have to hold, in this order. -/
def finish (context : Context) (state : State) : Except Rejection CompiledQuery :=
  if !state.outputMarked then .error .noOutput
  else match Scope.assemble state.scopes.reverse with
    | .error errors => .error (.schema (errors.map SchemaError.message))
    | .ok query =>
      match context.settings.rules.validate state.edgeLog state.nodeCount
          context.settings.maxNodeCount with
      | .ok () => .ok ⟨query, context.settings.aggregate, state.nodeCount, state.edgeLog.length⟩
      | .error broken => .error (.rules broken)

end State

end Compiler

/-- Compiles a stream of events. -/
def compileEvents (settings : Settings) (view : Option SchemaView) (events : List Event) :
    Except Rejection CompiledQuery :=
  let context : Compiler.Context := ⟨settings, view⟩
  Compiler.State.finish context (Compiler.State.processAll context {} events)

/-- Parses and compiles a query text. -/
def compile (settings : Settings) (view : Option SchemaView) (text : String) :
    Except Rejection CompiledQuery :=
  match parseEvents text with
  | .error error => .error (.parse error.diagnostic)
  | .ok events => compileEvents settings view events

end Traversal
