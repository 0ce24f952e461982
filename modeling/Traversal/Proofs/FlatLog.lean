import Traversal.Compiler.Flat
import Traversal.Proofs.Verdict

/-! Scopes are a way to keep one log. They are opened by queries and nested statements, or by whatever
comes first; they are never closed, so that an inner scope goes on with what belongs to an outer
statement; and the first to be read is the last that was opened. Laid end to end in opening order they
are nevertheless what a machine without scopes would have written, event by event. -/
namespace Traversal
open Compiler Compiler.State

namespace Compiler

/-- The state with its scopes laid end to end. -/
def State.flatten (state : State) : Flat where
  steps := state.steps
  errors := state.errors
  nodes := state.nodes
  results := state.results
  edgeLog := state.edgeLog
  nodeCount := state.nodeCount
  outputMarked := state.outputMarked
  pendingLabels := state.pendingLabels
  openVertices := state.openVertices

/-- A later state has all that an earlier one has of what a compilation is judged by, unmoved and
unchanged, with more behind it. -/
structure Flat.Extends (earlier later : Flat) : Prop where
  steps : earlier.steps <+: later.steps
  errors : earlier.errors <+: later.errors
  edgeLog : earlier.edgeLog <+: later.edgeLog
  outputMarked : earlier.outputMarked = true → later.outputMarked = true

end Compiler

variable (context : Context) (state : State)

/-! ## Single operations -/

theorem flatten_emit (step : Step) : (state.emit step).flatten = state.flatten.emit [step] := by
  rw [flatten, steps_emit, errors_emit]
  rfl

theorem flatten_report (errors : List SchemaError) :
    (state.report errors).flatten = state.flatten.report errors := by
  rw [flatten, steps_report, errors_report]
  rfl

/-- To open a scope is to go on in the log. -/
theorem flatten_openScope (steps : List Step) :
    (state.openScope steps).flatten = state.flatten.emit steps := by
  rw [flatten, steps_openScope, errors_openScope]
  rfl

theorem flatten_markOutput (stored : Bool) :
    (state.markOutput stored).flatten = state.flatten.markOutput stored := by
  rw [flatten, steps_markOutput, errors_markOutput]
  rfl

/-! ## One event -/

/-- A vertex is entered alike, by an edge from the end of the path or as the root. -/
theorem flatten_enterVertex (label : String) :
    (state.enterVertex context label).flatten =
      state.flatten.process context (.vertexEnter label) := by
  cases current : state.current with
  | none =>
    have same : state.flatten.current = none := current
    simp only [enterVertex, current, Flat.process, same]
    exact congrArg (Flat.enter label) (flatten_emit state (.nodeType label))
  | some source =>
    have same : state.flatten.current = some source := current
    have emitted (errors : List SchemaError) :=
      (flatten_emit (state.report errors) (.edge source label state.pendingLabels)).trans
        (congrArg _ (flatten_report state errors))
    simp only [enterVertex, current, Flat.process, same]
    exact congrArg (fun flat : Flat => Flat.enter label { flat with
      pendingLabels := [], edgeLog := state.edgeLog ++ [(source, label)] }) (emitted _)

/-- A vertex is left alike. -/
theorem flatten_exitVertex (stored : Bool) (keys : Option (List String)) :
    (state.exitVertex context stored keys).flatten =
      state.flatten.process context (.vertexExit stored keys) := by
  have marked := flatten_markOutput (state.report (state.flatten.keyErrors context keys)) stored
  rw [flatten_report] at marked
  exact congrArg Flat.leave marked

theorem flatten_exitNested (count : Nat) :
    (state.exitNested count).flatten = state.flatten.exitNested count := by
  rw [exitNested_eq, Flat.exitNested]
  have same : state.flatten.current = state.current := rfl
  cases current : state.current <;> rw [same, current] <;> rfl

theorem flatten_exitUnion (stored : Bool) :
    (state.exitUnion stored).flatten = state.flatten.process context (.unionExit stored) := by
  refine (flatten_markOutput _ stored).trans ?_
  rw [flatten_emit]
  rfl

/-- Every event does the same to the log as to the scopes laid end to end. -/
theorem flatten_process (event : Event) :
    (process context state event).flatten = state.flatten.process context event := by
  cases event with
  | queryEnter => exact (flatten_openScope state []).trans (by simp [Flat.emit, Flat.process])
  | queryExit | edgeFilter labels => rfl
  | startEnter | comma | limit count => exact flatten_emit state _
  | nestedEnter => exact flatten_openScope state _
  | startExit =>
    have emitted := flatten_emit state (.collect context.settings.aggregate)
    exact congrArg (fun flat : Flat => { flat with nodes := state.nodes.drop 1 }) emitted
  | nestedExit count => exact flatten_exitNested state count
  | vertexEnter label => exact flatten_enterVertex context state label
  | vertexExit stored keys => exact flatten_exitVertex context state stored keys
  | propertyFilter filter =>
    have same : state.flatten.current = state.current := rfl
    rw [process, applyFilter, Flat.process, same]
    cases current : state.current with
    | none => rfl
    | some node => exact flatten_emit state _
  | unionEnter =>
    have emitted := flatten_emit state .unionOpen
    exact congrArg (fun flat : Flat => { flat with results := [] :: state.results }) emitted
  | whereEnter negated =>
    have emitted := flatten_emit state (.whereOpen negated)
    exact congrArg (fun flat : Flat => { flat with results := [] :: state.results }) emitted
  | unionExit stored => exact flatten_exitUnion context state stored
  | whereExit negated =>
    have emitted := flatten_emit state (.whereClose negated)
    exact congrArg (fun flat : Flat => { flat with results := state.results.tail }) emitted

/-! ## A stream -/

/-- The machine without scopes keeps step with the machine with scopes. -/
theorem flatten_processAll (events : List Event) :
    (processAll context state events).flatten = state.flatten.processAll context events := by
  induction events generalizing state with
  | nil => rfl
  | cons event rest ih =>
    rw [processAll_cons, ih, flatten_process]
    rfl

/-- A stream only adds to what it finds. -/
theorem extends_processAll (events : List Event) :
    state.flatten.Extends (processAll context state events).flatten where
  steps := ⟨_, (steps_processAll context state events).symm⟩
  errors := ⟨_, (errors_processAll context state events).symm⟩
  edgeLog := ⟨_, (edgeLog_processAll context state events).symm⟩
  outputMarked marked := by
    have same : state.outputMarked = true := marked
    change (processAll context state events).outputMarked = true
    rw [outputMarked_processAll, same, Bool.true_or]

/-- The machine without scopes is judged by what its last state holds. -/
theorem Compiler.Flat.finish_eq (flat : Flat) :
    flat.finish context = verdictOf flat.outputMarked flat.errors
      (violations context.settings.rules flat.edgeLog flat.nodeCount context.settings.maxNodeCount)
      ⟨Step.textOfList flat.steps, context.settings.aggregate, flat.nodeCount,
        flat.edgeLog.length⟩ := by
  rw [Flat.finish, Flat.assemble]
  cases flat.outputMarked with
  | false => rfl
  | true =>
    cases flat.errors with
    | cons error others => rfl
    | nil =>
      cases violations context.settings.rules flat.edgeLog flat.nodeCount
        context.settings.maxNodeCount <;> rfl

theorem finish_flatten : finish context state = state.flatten.finish context := by
  rw [finish_eq, Flat.finish_eq]
  rfl

/-- The scopes keep one log, to which events only add. Behind every part of a stream the steps of the
scopes, one scope after the other in opening order, are those that the machine without scopes has
written, and so are the errors; the rest of the state is the same. Whatever follows leaves them as
they are and adds at the end; the log of edges only grows, and the mark stays. And the scopes give the
text of all steps if there are no errors, and otherwise all errors in order, so that both machines
judge alike. -/
theorem scopes_keep_one_log (settings : Settings) (view : Option SchemaView)
    (events : List Event) :
    let context : Context := ⟨settings, view⟩
    (∀ front, front <+: events →
      let state := processAll context {} front
      let flat := Flat.processAll context {} front
      state.flatten = flat ∧
        state.scopes.reverse.flatMap Scope.steps = flat.steps ∧
        state.scopes.reverse.flatMap Scope.errors = flat.errors ∧
        Scope.assemble state.scopes.reverse =
          if flat.errors = [] then .ok (Step.textOfList flat.steps) else .error flat.errors) ∧
      (∀ front rest, front ++ rest <+: events → Flat.Extends (Flat.processAll context {} front)
        (Flat.processAll context {} (front ++ rest))) ∧
      compileEvents settings view events =
        (Flat.processAll context {} events).finish context := by
  intro context
  have log (front : List Event) : (processAll context {} front).flatten =
      Flat.processAll context {} front := flatten_processAll context {} front
  refine ⟨fun front _ => ⟨log front, ?_, ?_, ?_⟩, fun front rest _ => ?_, ?_⟩
  · rw [← log front]
    rfl
  · rw [← log front]
    rfl
  · rw [assemble_scopes, ← log front]
    rfl
  · rw [← log front, ← log (front ++ rest), processAll_append]
    exact extends_processAll context _ rest
  · rw [← log events, ← finish_flatten]
    rfl

/-- Three scopes, the first opened for want of one. Their errors are put together in the order in
which they arose. -/
theorem scattered_errors_are_kept_in_order :
    let view := some Schema.empty.view
    let events : List Event := [.vertexEnter "a", .queryEnter, .vertexEnter "b", .nestedEnter,
      .vertexEnter "c", .nestedExit 1, .vertexEnter "d", .vertexExit true none]
    let state := processAll ⟨{}, view⟩ {} events
    let flat := Flat.processAll ⟨{}, view⟩ {} events
    state.scopes.length = 3 ∧ state.scopes.reverse.flatMap Scope.steps = flat.steps ∧
      flat.errors = [.noEdge "a" "b", .noEdge "b" "c", .noEdge "b" "d"] ∧
      Scope.assemble state.scopes.reverse = .error flat.errors ∧
      Flat.Extends (Flat.processAll ⟨{}, view⟩ {} [.vertexEnter "a", .queryEnter, .vertexEnter "b"])
        flat := by
  intro view events state flat
  obtain ⟨fronts, grows, -⟩ := scopes_keep_one_log {} view events
  obtain ⟨-, steps, -, assembled⟩ := fronts events (List.prefix_refl events)
  have errors : flat.errors = [.noEdge "a" "b", .noEdge "b" "c", .noEdge "b" "d"] := by decide
  have objected : flat.errors ≠ [] := by
    rw [errors]
    exact List.cons_ne_nil _ _
  exact ⟨by decide, steps, errors, assembled.trans (if_neg objected),
    grows [.vertexEnter "a", .queryEnter, .vertexEnter "b"] _ (List.prefix_refl events)⟩

end Traversal
