import Traversal.Proofs.Verdict

/-! The books of a compilation. The log of edges, the mark and the counts are kept apart from the
steps, by other operations, and nothing reads the one to write the other. They agree all the same
behind every event of every stream: what is judged by the books is what the steps say. -/
namespace Traversal
open Compiler Compiler.State

/-- The type of the vertex that a step enters, as the root or by an edge. -/
def Step.entered? : Step → Option String
  | .nodeType label => some label
  | .edge _ target _ => some target
  | _ => none

/-- The type of the vertex that an event enters. -/
def Event.entered? : Event → Option String
  | .vertexEnter label => some label
  | _ => none

/-- The edges among some steps, in order. -/
def Step.edges (steps : List Step) : EdgeLog := steps.filterMap Step.ends?

namespace Compiler

/-- The books of a state agree with its steps and with the events that led to it. -/
structure Tallies (events : List Event) (state : State) : Prop where
  /-- The log holds the edges of the steps. -/
  log : state.edgeLog = Step.edges state.steps
  /-- The mark is set by a step that stores something. -/
  mark : state.outputMarked = true ↔ .store ∈ state.steps
  /-- The steps enter the vertices that the events enter. -/
  entered : state.steps.filterMap Step.entered? = events.filterMap Event.entered?
  /-- Every vertex that an event leaves counts. -/
  count : state.nodeCount = events.countP Event.leavesVertex

end Compiler

variable (context : Context)

/-! ## One event -/

theorem mem_storeSteps (stored : Bool) : .store ∈ storeSteps stored ↔ stored = true := by
  cases stored <;> simp [storeSteps]

/-- An event that enters a vertex emits one step that does so, and no other event emits any. -/
theorem entered_emitted (state : State) (event : Event) :
    (emitted context state event).filterMap Step.entered? = event.entered?.toList := by
  cases event with
  | vertexEnter label =>
    cases current : state.current <;> simp [emitted, current, Step.entered?, Event.entered?]
  | propertyFilter filter =>
    cases current : state.current <;> simp [emitted, current, Step.entered?, Event.entered?]
  | vertexExit stored keys | unionExit stored => cases stored <;> rfl
  | _ => rfl

/-- The events that mark output are those that emit a step to store it. -/
theorem store_mem_emitted (state : State) (event : Event) :
    .store ∈ emitted context state event ↔ event.marksOutput = true := by
  cases event with
  | vertexEnter label =>
    cases current : state.current <;> simp [emitted, current, Event.marksOutput]
  | propertyFilter filter =>
    cases current : state.current <;> simp [emitted, current, Event.marksOutput]
  | vertexExit stored keys => exact mem_storeSteps stored
  | unionExit stored =>
    have other : Step.store ≠ .unionClose := Step.noConfusion
    rw [emitted, List.mem_cons, or_iff_right other]
    exact mem_storeSteps stored
  | _ => simp [emitted, Event.marksOutput]

/-! ## A stream -/

theorem entered_trace (state : State) (events : List Event) :
    (trace emitted context state events).filterMap Step.entered? =
      events.filterMap Event.entered? := by
  induction events generalizing state with
  | nil => rfl
  | cons event rest ih =>
    rw [trace, List.filterMap_append, ih, entered_emitted]
    cases entered : event.entered? <;> simp [entered]

theorem store_mem_trace (state : State) (events : List Event) :
    .store ∈ trace emitted context state events ↔ events.any Event.marksOutput = true := by
  induction events generalizing state with
  | nil => simp [trace]
  | cons event rest ih =>
    rw [trace, List.mem_append, ih, store_mem_emitted, List.any_cons, Bool.or_eq_true]

/-- Whatever stream is processed, the books agree with the steps behind it. -/
theorem tallies_processAll (events : List Event) :
    Tallies events (processAll context {} events) := by
  have steps : (processAll context {} events).steps = trace emitted context {} events :=
    steps_processAll context {} events
  constructor
  · rw [steps]
    exact edgeLog_processAll context {} events
  · rw [outputMarked_processAll, steps, store_mem_trace]
    rfl
  · rw [steps, entered_trace]
  · rw [nodeCount_processAll]
    exact Nat.zero_add _

/-- The vertices that the steps enter are as many as the events enter. -/
theorem Compiler.Tallies.countP_entered {events : List Event} {state : State}
    (tallies : Tallies events state) :
    state.steps.countP (·.entered?.isSome) = events.countP (·.entered?.isSome) := by
  rw [← List.length_filterMap_eq_countP, tallies.entered, List.length_filterMap_eq_countP]

/-- The books agree with the steps behind every part of a stream, however malformed the stream is: the
log of edges holds the edges of the steps, in order; output is marked if and only if a step stores
something; the steps enter as many vertices, and the same, as the events; and the count is that of the
vertices left. So the loop rule judges the edges of the text, and every compiled query stores
something. -/
theorem books_agree_with_steps (settings : Settings) (view : Option SchemaView)
    (events : List Event) :
    let context : Context := ⟨settings, view⟩
    let steps := (processAll context {} events).steps
    let edges := Step.edges steps
    (∀ front, front <+: events →
      let state := processAll context {} front
      Tallies front state ∧
        state.steps.countP (·.entered?.isSome) = front.countP (·.entered?.isSome)) ∧
      (∀ broken, compileEvents settings view events = .error (.rules broken) →
        ∀ distinct total, .loop distinct total ∈ broken ↔ settings.rules.loopCheck = true ∧
          distinct = distinctEdges edges ∧ total = edges.length ∧ distinct < total / 2) ∧
      ∀ result, compileEvents settings view events = .ok result →
        result.query = Step.textOfList steps ∧ .store ∈ steps ∧
          (settings.rules.loopCheck = true → ¬ distinctEdges edges < edges.length / 2) := by
  intro context steps edges
  have books : Tallies events (processAll context {} events) := tallies_processAll context events
  have log : (processAll context {} events).edgeLog = edges := books.log
  refine ⟨fun front _ => ?_, fun broken refused distinct total => ?_, fun result compiled => ?_⟩
  · have tallies := tallies_processAll context front
    exact ⟨tallies, tallies.countP_entered⟩
  · rw [compileEvents_eq, verdictOf_eq_rules_iff] at refused
    obtain ⟨-, -, -, rfl⟩ := refused
    rw [log, List.mem_filter]
    simp only [candidates, List.mem_cons, Violation.loop.injEq, reduceCtorEq, List.not_mem_nil,
      or_false, RuleSet.refuses, Bool.and_eq_true, decide_eq_true_eq]
    constructor
    · rintro ⟨⟨rfl, rfl⟩, enabled, circles⟩
      exact ⟨enabled, rfl, rfl, circles⟩
    · rintro ⟨enabled, rfl, rfl, circles⟩
      exact ⟨⟨rfl, rfl⟩, enabled, circles⟩
  · rw [compileEvents_eq, verdictOf_eq_ok_iff] at compiled
    obtain ⟨marked, -, kept, rfl⟩ := compiled
    refine ⟨rfl, ?_, fun enabled circles => ?_⟩
    · apply books.mark.mp
      rw [outputMarked_processAll, marked, Bool.or_true]
    · have passed := List.filter_eq_nil_iff.mp kept (.loop _ _) List.mem_cons_self
      apply passed
      rw [log, RuleSet.refuses, enabled, Bool.true_and]
      exact decide_eq_true circles

/-- Five vertices entered one from the other follow one edge four times. With two of them the query is
compiled. -/
theorem circling_stream_is_judged_by_its_steps :
    let stream (vertices : Nat) : List Event :=
      List.replicate vertices (.vertexEnter "a") ++ [.vertexExit true none]
    let steps (vertices : Nat) := (processAll ⟨{}, none⟩ {} (stream vertices)).steps
    compileEvents {} none (stream 5) = .error (.rules [.loop 1 4]) ∧
      (distinctEdges (Step.edges (steps 5)) = 1 ∧ (Step.edges (steps 5)).length = 4) ∧
      (∃ result, compileEvents {} none (stream 2) = .ok result ∧ .store ∈ steps 2) ∧
      Tallies (List.replicate 5 (.vertexEnter "a"))
        (processAll ⟨{}, none⟩ {} (List.replicate 5 (.vertexEnter "a"))) := by
  intro stream steps
  obtain ⟨fronts, refused, -⟩ := books_agree_with_steps {} none (stream 5)
  obtain ⟨-, -, compiled⟩ := books_agree_with_steps {} none (stream 2)
  have circles : compileEvents {} none (stream 5) = .error (.rules [.loop 1 4]) := by
    rw [compileEvents_eq, verdictOf_eq_rules_iff]
    decide
  obtain ⟨-, distinct, total, -⟩ := (refused _ circles 1 4).mp (by decide)
  have passes : compileEvents {} none (stream 2) =
      .ok ⟨Step.textOfList (steps 2), false, 1, 1⟩ := by
    rw [compileEvents_eq, verdictOf_eq_ok_iff]
    exact ⟨by decide, by decide, by decide, rfl⟩
  exact ⟨circles, ⟨distinct.symm, total.symm⟩, ⟨_, passes, (compiled _ passes).2.1⟩,
    (fronts _ (List.prefix_append _ _)).1⟩

end Traversal
