import Traversal.Rules
import Traversal.Step

/-! The state of a compilation. Steps are kept by scope, and the scope opened last receives every
step, even after the statement that opened it has ended; so the scopes in opening order hold all
steps in the order in which they were emitted. -/
namespace Traversal

/-- The steps and the errors of one scope, each in the order in which they arose. -/
structure Scope (ε : Type) where
  steps : List Step
  errors : List ε
  deriving Repr, DecidableEq

namespace Scope

variable {ε : Type}

/-- The scope without steps and errors. -/
def empty : Scope ε := ⟨[], []⟩

/-- The scope with one more step. -/
def emit (step : Step) (scope : Scope ε) : Scope ε := { scope with steps := scope.steps ++ [step] }

/-- The scope with more errors. -/
def report (errors : List ε) (scope : Scope ε) : Scope ε :=
  { scope with errors := scope.errors ++ errors }

/-- Changes the first of some scopes. If there is none yet, one is opened. -/
def changeTop (change : Scope ε → Scope ε) : List (Scope ε) → List (Scope ε)
  | [] => [change empty]
  | top :: rest => change top :: rest

/-- The text of the scope's steps. -/
def text (scope : Scope ε) : String := Step.textOfList scope.steps

/-- The texts of all scopes joined, or, if there are any errors, all of them in order. -/
def assemble (scopes : List (Scope ε)) : Except (List ε) String :=
  match scopes.flatMap errors with
  | [] => .ok (String.join (scopes.map text))
  | errors => .error errors

end Scope

/-- What a schema objects to: an edge between two types, a label of such an edge, a type that it
does not know, or a filter key that a type does not have. -/
inductive SchemaError
  | noEdge (source target : String)
  | noEdgeLabel (source target label : String)
  | unknownType (type : String)
  | unknownKey (key type : String)
  deriving Repr, DecidableEq

/-- The message about a schema's objection. -/
def SchemaError.message : SchemaError → String
  | .noEdge source target => s!"no edge rule between `{source}` and `{target}`"
  | .noEdgeLabel source target label =>
    s!"no edge rule between `{source}` and `{target}` with label `{label}`"
  | .unknownType type => s!"unknown node type `{type}`"
  | .unknownKey key type => s!"invalid filter key `{key}` for node type `{type}`"

namespace Compiler

/-- The state of a compilation. The lists that act as stacks, `scopes`, `nodes`, `results` and
`openVertices`, hold their top first; the others hold their oldest item first. -/
structure State where
  /-- The scopes opened so far. -/
  scopes : List (Scope SchemaError) := []
  /-- The path: the types of the vertices that the next edge or filter can belong to. -/
  nodes : List String := []
  /-- For each open union or block, the results of its statements. -/
  results : List (List String) := []
  /-- The edges followed so far. -/
  edgeLog : EdgeLog := []
  /-- The number of vertices left so far. -/
  nodeCount : Nat := 0
  /-- Whether anything is marked for output. -/
  outputMarked : Bool := false
  /-- The labels that constrain the next edge. -/
  pendingLabels : List String := []
  /-- The types of the vertices entered and not yet left. -/
  openVertices : List String := []
  deriving Repr, DecidableEq

namespace State

/-- The type of the vertex at the end of the path. -/
def current (state : State) : Option String := state.nodes.head?

/-- Opens a scope that begins with some steps. -/
def openScope (steps : List Step) (state : State) : State :=
  { state with scopes := ⟨steps, []⟩ :: state.scopes }

/-- Emits a step. -/
def emit (step : Step) (state : State) : State :=
  { state with scopes := Scope.changeTop (·.emit step) state.scopes }

/-- Records errors. -/
def report (errors : List SchemaError) (state : State) : State :=
  { state with scopes := if errors.isEmpty then state.scopes
      else Scope.changeTop (·.report errors) state.scopes }

/-- Emits the step that marks output, if asked to. -/
def markOutput (stored : Bool) (state : State) : State :=
  { state with
    scopes := if stored then (state.emit .store).scopes else state.scopes
    outputMarked := state.outputMarked || stored }

/-- Lists of results with one more in the first of them, if there is one. -/
def collect (result : String) : List (List String) → List (List String)
  | [] => []
  | top :: rest => (top ++ [result]) :: rest

/-- Adds a result to the innermost open list of results, if there is one. -/
def collectResult (result : String) (state : State) : State :=
  { state with results := collect result state.results }

/-- All steps in the order in which they were emitted. -/
def steps (state : State) : List Step := state.scopes.reverse.flatMap Scope.steps

/-- All errors in the order in which they arose. -/
def errors (state : State) : List SchemaError := state.scopes.reverse.flatMap Scope.errors

end State

end Compiler

end Traversal
