import Traversal.Proofs.Machine
import Traversal.Query.Steps

/-! What every event of a stream adds. Which steps an event emits and which errors it causes follows
from the state in which it arrives, without a look at the scopes; and what a stream leaves in the
scopes is what its events added, in their order. -/
namespace Traversal

/-- The two types that a step joins, if it follows an edge. -/
def Step.ends? : Step → Option (String × String)
  | .edge source target _ => some (source, target)
  | _ => none

/-- Whether an event marks output. -/
def Event.marksOutput : Event → Bool
  | .vertexExit stored _ | .unionExit stored => stored
  | _ => false

/-- Whether an event leaves a vertex. -/
def Event.leavesVertex : Event → Bool
  | .vertexExit _ _ => true
  | _ => false

namespace Compiler

/-- The objections to an edge. Without a schema there are none. -/
def Context.edgeErrors (context : Context) (source target : String) (labels : List String) :
    List SchemaError :=
  match context.view with
  | some view => Compiler.edgeErrors view source target labels
  | none => []

/-- The objections to the keys that a vertex reports. There are none unless the settings ask for the
check and there is a schema. -/
def Context.keyErrors (context : Context) (type : String) (keys : List String) :
    List SchemaError :=
  match context.settings.validateStructure, context.view with
  | true, some view => Compiler.keyErrors view type keys
  | _, _ => []

namespace State

/-- The steps that an event emits. -/
def emitted (context : Context) (state : State) : Event → List Step
  | .startEnter => [.start]
  | .startExit => [.collect context.settings.aggregate]
  | .nestedEnter => [.startInstance]
  | .vertexEnter label =>
    match state.current with
    | some source => [.edge source label state.pendingLabels]
    | none => [.nodeType label]
  | .vertexExit stored _ => storeSteps stored
  | .comma => [.comma]
  | .propertyFilter filter =>
    match state.current with
    | some node => [.filter node filter.key filter.negated filter.values]
    | none => []
  | .limit count => [.limit count]
  | .unionEnter => [.unionOpen]
  | .unionExit stored => .unionClose :: storeSteps stored
  | .whereEnter negated => [.whereOpen negated]
  | .whereExit negated => [.whereClose negated]
  | .queryEnter | .queryExit | .nestedExit _ | .edgeFilter _ => []

/-- The errors that an event causes: objections to the edge by which a vertex is entered, and to the
keys that a vertex reports when it is left. -/
def caused (context : Context) (state : State) : Event → List SchemaError
  | .vertexEnter label =>
    match state.current with
    | some source => context.edgeErrors source label state.pendingLabels
    | none => []
  | .vertexExit _ (some keys) =>
    match state.openVertices.head? with
    | some label => context.keyErrors label keys
    | none => []
  | _ => []

/-- What the events of a stream add one after the other, each in the state that those before it have
left. -/
def trace {α : Type} (added : Context → State → Event → List α) (context : Context) :
    State → List Event → List α
  | _, [] => []
  | state, event :: rest =>
    added context state event ++ trace added context (process context state event) rest

variable (context : Context)

/-! ## One event -/

/-- The end of a nested statement touches the path and the results only. -/
theorem exitNested_eq (count : Nat) (state : State) :
    state.exitNested count = { state with
      nodes := state.nodes.drop count
      results := (state.current.map (collect · state.results)).getD state.results } := by
  cases current : state.current <;> simp only [exitNested, current] <;> rfl

theorem steps_process (state : State) (event : Event) :
    (process context state event).steps = state.steps ++ emitted context state event := by
  cases event with
  | vertexEnter label =>
    cases current : state.current with
    | none =>
      simp only [process, enterVertex, emitted, current]
      exact steps_emit _ state
    | some source =>
      simp only [process, enterVertex, emitted, current]
      refine (steps_emit _ _).trans ?_
      rw [steps_report]
  | propertyFilter filter =>
    cases current : state.current with
    | none => simp [process, applyFilter, emitted, current]
    | some node => simp [process, applyFilter, emitted, current]
  | nestedExit count =>
    rw [process, exitNested_eq]
    exact (List.append_nil _).symm
  | vertexExit stored keys =>
    refine (steps_markOutput stored _).trans ?_
    rw [steps_report]
    rfl
  | unionExit stored =>
    refine (steps_markOutput stored _).trans ?_
    rw [steps_emit, List.append_assoc]
    rfl
  | queryEnter => exact steps_openScope [] state
  | nestedEnter => exact steps_openScope _ state
  | queryExit | edgeFilter _ => exact (List.append_nil _).symm
  | startEnter | startExit | comma | limit _ | unionEnter | whereEnter _ | whereExit _ =>
    exact steps_emit _ state

theorem errors_process (state : State) (event : Event) :
    (process context state event).errors = state.errors ++ caused context state event := by
  cases event with
  | vertexEnter label =>
    cases current : state.current with
    | none =>
      simp only [process, enterVertex, caused, current, List.append_nil]
      exact errors_emit _ state
    | some source =>
      simp only [process, enterVertex, caused, current]
      refine (errors_emit _ _).trans ?_
      rw [errors_report]
      rfl
  | vertexExit stored keys =>
    refine (errors_markOutput stored _).trans ?_
    rw [errors_report]
    congr 1
    cases keys with
    | none => cases context.settings.validateStructure <;> cases state.openVertices.head? <;> rfl
    | some keys =>
      unfold caused Context.keyErrors
      cases context.settings.validateStructure <;> cases state.openVertices.head? <;>
        cases context.view <;> rfl
  | propertyFilter filter =>
    cases current : state.current with
    | none => simp [process, applyFilter, caused, current]
    | some node => simp [process, applyFilter, caused, current]
  | nestedExit count =>
    rw [process, exitNested_eq]
    exact (List.append_nil _).symm
  | unionExit stored =>
    refine (errors_markOutput stored _).trans ?_
    rw [errors_emit]
    exact (List.append_nil _).symm
  | queryEnter | nestedEnter =>
    exact (errors_openScope _ state).trans (List.append_nil _).symm
  | queryExit | edgeFilter _ => exact (List.append_nil _).symm
  | startEnter | startExit | comma | limit _ | unionEnter | whereEnter _ | whereExit _ =>
    exact (errors_emit _ state).trans (List.append_nil _).symm

theorem edgeLog_process (state : State) (event : Event) :
    (process context state event).edgeLog =
      state.edgeLog ++ (emitted context state event).filterMap Step.ends? := by
  cases event with
  | vertexEnter label =>
    cases current : state.current <;> simp [process, enterVertex, emitted, current, Step.ends?, emit]
  | propertyFilter filter =>
    cases current : state.current <;>
      simp [process, applyFilter, emitted, current, Step.ends?, emit]
  | nestedExit count =>
    rw [process, exitNested_eq]
    exact (List.append_nil _).symm
  | vertexExit stored keys | unionExit stored =>
    cases stored <;> exact (List.append_nil _).symm
  | _ => exact (List.append_nil _).symm

theorem outputMarked_process (state : State) (event : Event) :
    (process context state event).outputMarked = (state.outputMarked || event.marksOutput) := by
  cases event with
  | vertexEnter label =>
    cases current : state.current <;> simp [process, enterVertex, current, Event.marksOutput, emit,
      report]
  | propertyFilter filter =>
    cases current : state.current <;> simp [process, applyFilter, current, Event.marksOutput, emit]
  | nestedExit count =>
    rw [process, exitNested_eq]
    exact (Bool.or_false _).symm
  | vertexExit stored keys | unionExit stored => rfl
  | _ => exact (Bool.or_false _).symm

theorem nodeCount_process (state : State) (event : Event) :
    (process context state event).nodeCount = state.nodeCount + event.leavesVertex.toNat := by
  cases event with
  | vertexEnter label =>
    cases current : state.current <;> simp [process, enterVertex, current, Event.leavesVertex, emit,
      report]
  | propertyFilter filter =>
    cases current : state.current <;> simp [process, applyFilter, current, Event.leavesVertex, emit]
  | nestedExit count =>
    rw [process, exitNested_eq]
    rfl
  | unionExit stored => rfl
  | _ => rfl

/-! ## A stream -/

section

variable {α β : Type} {added : Context → State → Event → List α}

/-- What each event adds to a list, a stream adds to it. -/
theorem processAll_trace (list : State → List α)
    (step : ∀ state event, list (process context state event) =
      list state ++ added context state event) (state : State) (events : List Event) :
    list (processAll context state events) = list state ++ trace added context state events := by
  induction events generalizing state with
  | nil => exact (List.append_nil _).symm
  | cons event rest ih => rw [processAll_cons, ih, step, trace, List.append_assoc]

/-- What the parts of a stream add. -/
theorem trace_append (state : State) (first rest : List Event) :
    trace added context state (first ++ rest) =
      trace added context state first ++
        trace added context (processAll context state first) rest := by
  induction first generalizing state with
  | nil => rfl
  | cons event first ih => rw [List.cons_append, trace, ih, trace, processAll_cons, List.append_assoc]

/-- What is made of the additions one by one is made of the additions of the whole stream. -/
theorem trace_flatMap {added' : Context → State → Event → List β} (make : α → List β)
    {events : List Event}
    (step : ∀ state, ∀ event ∈ events, added' context state event =
      (added context state event).flatMap make) (state : State) :
    trace added' context state events = (trace added context state events).flatMap make := by
  induction events generalizing state with
  | nil => rfl
  | cons event rest ih =>
    have others := ih fun state event member => step state event (List.mem_cons_of_mem _ member)
    rw [trace, trace, step state event List.mem_cons_self, others, List.flatMap_append]

end

/-- The steps in the scopes are those that the events emitted. -/
theorem steps_processAll (state : State) (events : List Event) :
    (processAll context state events).steps =
      state.steps ++ trace emitted context state events :=
  processAll_trace context State.steps (steps_process context) state events

/-- The errors in the scopes are those that the events caused. -/
theorem errors_processAll (state : State) (events : List Event) :
    (processAll context state events).errors =
      state.errors ++ trace caused context state events :=
  processAll_trace context State.errors (errors_process context) state events

/-- The log of edges holds the edges among the steps that the events emitted. -/
theorem edgeLog_processAll (state : State) (events : List Event) :
    (processAll context state events).edgeLog =
      state.edgeLog ++ (trace emitted context state events).filterMap Step.ends? := by
  induction events generalizing state with
  | nil => exact (List.append_nil _).symm
  | cons event rest ih =>
    rw [processAll_cons, ih, edgeLog_process, trace, List.filterMap_append, List.append_assoc]

/-- Output is marked as soon as one event marks it. -/
theorem outputMarked_processAll (state : State) (events : List Event) :
    (processAll context state events).outputMarked =
      (state.outputMarked || events.any Event.marksOutput) := by
  induction events generalizing state with
  | nil => exact (Bool.or_false _).symm
  | cons event rest ih =>
    rw [processAll_cons, ih, outputMarked_process, List.any_cons, Bool.or_assoc]

/-- Every event that leaves a vertex counts. -/
theorem nodeCount_processAll (state : State) (events : List Event) :
    (processAll context state events).nodeCount =
      state.nodeCount + events.countP Event.leavesVertex := by
  induction events generalizing state with
  | nil => rfl
  | cons event rest ih =>
    rw [processAll_cons, ih, nodeCount_process, List.countP_cons, Nat.add_assoc,
      Nat.add_comm (rest.countP _)]
    cases event.leavesVertex <;> rfl

end State

end Compiler

end Traversal
