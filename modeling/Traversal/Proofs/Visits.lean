import Traversal.Proofs.Bookkeeping
import Traversal.Proofs.Stacks

/-! Where the sources of edges and the vertices of filters come from. A type travels: it is put on
the path when its vertex is entered, into the results when a nested statement ends, and back on the
path when a union ends, and in a malformed stream it may take that way between parts that have nothing
to do with each other. It never comes from anywhere else. So no step speaks of a vertex that no
earlier step has visited. -/
namespace Traversal
open Compiler Compiler.State

/-- The type of the vertex that a step leaves or narrows, which has to have been visited. -/
def Step.mentioned? : Step → Option String
  | .edge source _ _ => some source
  | .filter node _ _ _ => some node
  | _ => none

/-- Each step mentions no vertex but those that the steps in front of it have entered. -/
def Step.Grounded (steps : List Step) : Prop :=
  ∀ front step back, steps = front ++ step :: back →
    ∀ label, step.mentioned? = some label → label ∈ front.filterMap Step.entered?

/-- A state keeps a type for later: on the path or among the results. -/
def Compiler.State.Keeps (state : State) (label : String) : Prop :=
  label ∈ state.nodes ∨ label ∈ state.results.flatten

/-- The steps are grounded, and whatever is kept for later has been visited by them. -/
structure Compiler.Rooted (state : State) : Prop where
  kept : ∀ label, state.Keeps label → label ∈ state.steps.filterMap Step.entered?
  steps : Step.Grounded state.steps

variable (context : Context) {state : State}

/-! ## Grounded steps -/

theorem Step.Grounded.append {steps added : List Step} (grounded : Step.Grounded steps)
    (known : ∀ label ∈ added.filterMap Step.mentioned?, label ∈ steps.filterMap Step.entered?) :
    Step.Grounded (steps ++ added) := by
  intro front step back split label mentioned
  obtain ⟨between, rfl, parts⟩ | ⟨between, rfl, parts⟩ := List.append_eq_append_iff.mp split
  · have member : step ∈ added := parts ▸ List.mem_append_right between List.mem_cons_self
    rw [List.filterMap_append]
    apply List.mem_append_left
    exact known label (List.mem_filterMap.mpr ⟨step, member, mentioned⟩)
  · cases between with
    | nil =>
      have member : step ∈ added := by
        rw [← List.nil_append added, ← parts]
        exact List.mem_cons_self
      rw [List.append_nil] at known
      exact known label (List.mem_filterMap.mpr ⟨step, member, mentioned⟩)
    | cons first rest =>
      obtain ⟨rfl, -⟩ := List.cons.inj parts
      exact grounded front step rest rfl label mentioned

/-- In front of every step that mentions a vertex stands the one that enters a root: the first step to
enter a vertex cannot be an edge, which would mention one itself. -/
theorem Step.Grounded.root_mem {front back : List Step} {step : Step} {label : String}
    (grounded : Step.Grounded (front ++ step :: back)) (mentioned : step.mentioned? = some label) :
    ∃ root, .nodeType root ∈ front := by
  have visited := grounded front step back rfl label mentioned
  obtain ⟨earlier, member, entered⟩ := List.mem_filterMap.mp visited
  cases earlier with
  | nodeType root => exact ⟨root, member⟩
  | edge source target labels =>
    obtain ⟨front', back', rfl⟩ := List.append_of_mem member
    have shorter : Step.Grounded (front' ++ .edge source target labels ::
        (back' ++ step :: back)) := by
      rwa [List.append_assoc] at grounded
    obtain ⟨root, member⟩ := root_mem shorter rfl
    exact ⟨root, List.mem_append_left _ member⟩
  | _ => cases entered
termination_by front.length

/-! ## One event -/

/-- An event emits steps that mention nothing but the end of the path. -/
theorem mentioned_emitted {event : Event} {label : String}
    (mentioned : label ∈ (emitted context state event).filterMap Step.mentioned?) :
    state.current = some label := by
  cases event with
  | vertexEnter entered | propertyFilter filter =>
    cases current : state.current with
    | none =>
      rw [emitted, current] at mentioned
      exact absurd mentioned List.not_mem_nil
    | some source =>
      rw [emitted, current] at mentioned
      exact congrArg some (List.mem_singleton.mp mentioned).symm
  | vertexExit stored keys | unionExit stored =>
    cases stored <;> exact absurd mentioned List.not_mem_nil
  | _ => exact absurd mentioned List.not_mem_nil

theorem mem_flatten_tail {label : String} {results : List (List String)}
    (member : label ∈ results.tail.flatten) : label ∈ results.flatten := by
  obtain ⟨found, listed, member⟩ := List.mem_flatten.mp member
  exact List.mem_flatten.mpr ⟨found, List.mem_of_mem_tail listed, member⟩

theorem mem_flatten_collect {result label : String} {results : List (List String)}
    (member : label ∈ (collect result results).flatten) :
    label = result ∨ label ∈ results.flatten := by
  cases results with
  | nil => exact .inr member
  | cons found others =>
    simp only [collect, List.flatten_cons, List.mem_append, List.mem_singleton] at member ⊢
    rwa [or_assoc, or_left_comm] at member

/-- Ending a nested statement copies the end of the path into the results. -/
theorem keeps_of_exitNested {count : Nat} {label : String}
    (keeps : (state.exitNested count).Keeps label) : state.Keeps label := by
  rw [exitNested_eq] at keeps
  obtain path | found := keeps
  · exact .inl (List.mem_of_mem_drop path)
  · cases current : state.current with
    | none =>
      rw [current] at found
      exact .inr found
    | some result =>
      rw [current] at found
      obtain rfl | found := mem_flatten_collect found
      · exact .inl (List.mem_of_mem_head? current)
      · exact .inr found

/-- Ending a union moves a result back onto the path. -/
theorem keeps_of_exitUnion {stored : Bool} {label : String}
    (keeps : (state.exitUnion stored).Keeps label) : state.Keeps label := by
  obtain path | found := keeps
  · obtain result | path := List.mem_append.mp path
    · refine .inr ?_
      split at result
      · rename_i first others outer results
        rw [List.mem_singleton.mp result, results]
        exact List.mem_append_left _ List.mem_cons_self
      · cases result
    · exact .inl path
  · exact .inr (mem_flatten_tail found)

/-- An event keeps what was kept before it and the vertex that it enters, and nothing else. -/
theorem keeps_of_process {event : Event} {label : String}
    (keeps : (process context state event).Keeps label) :
    event.entered? = some label ∨ state.Keeps label := by
  cases event with
  | vertexEnter entered =>
    obtain ⟨nodes, results, -⟩ := enterVertex_stacks context entered state
    rw [process, Keeps, nodes, results, List.mem_cons, or_assoc] at keeps
    exact keeps.imp_left fun same => congrArg some same.symm
  | propertyFilter filter =>
    rw [process, applyFilter] at keeps
    cases current : state.current <;> rw [current] at keeps <;> exact .inr keeps
  | nestedExit count => exact .inr (keeps_of_exitNested keeps)
  | unionExit stored => exact .inr (keeps_of_exitUnion keeps)
  | startExit => exact .inr (keeps.imp_left List.mem_of_mem_drop)
  | whereExit negated => exact .inr (keeps.imp_right mem_flatten_tail)
  | _ => exact .inr keeps

/-- What is kept for later stays visited, and steps that are emitted mention only what is kept. -/
theorem rooted_process (rooted : Rooted state) (event : Event) :
    Rooted (process context state event) := by
  have steps := steps_process context state event
  constructor
  · intro label keeps
    rw [steps, List.filterMap_append, entered_emitted, List.mem_append, Option.mem_toList]
    obtain entered | keeps := keeps_of_process context keeps
    · exact .inr entered
    · exact .inl (rooted.kept label keeps)
  · rw [steps]
    apply rooted.steps.append
    intro label mentioned
    have current := mentioned_emitted context mentioned
    exact rooted.kept label (.inl (List.mem_of_mem_head? current))

/-! ## A stream -/

theorem rooted_processAll (rooted : Rooted state) (events : List Event) :
    Rooted (processAll context state events) := by
  induction events generalizing state with
  | nil => exact rooted
  | cons event rest ih => exact ih (rooted_process context rooted event)

theorem rooted_empty : Rooted {} := by
  constructor
  · rintro label (path | found)
    · cases path
    · cases found
  · intro front step back split
    cases front <;> cases split

/-- Edges and filters refer to vertices already visited, whatever the events and in whatever order:
each edge leaves, and each filter narrows, a vertex of a type that an earlier step has entered, as the
root or by an edge. So none of them stands in front of the first root. -/
theorem steps_mention_visited_vertices (events : List Event) {front back : List Step} {step : Step}
    {label : String} (split : (processAll context {} events).steps = front ++ step :: back)
    (mentioned : step.mentioned? = some label) :
    label ∈ front.filterMap Step.entered? ∧ ∃ root, .nodeType root ∈ front := by
  have grounded := (rooted_processAll context rooted_empty events).steps
  refine ⟨grounded front step back split label mentioned, ?_⟩
  rw [split] at grounded
  exact grounded.root_mem mentioned

/-- The type `a` leaves the path with the start statement and comes back as the result of a union, to
which it never belonged. -/
theorem stray_result_is_visited :
    let events : List Event := [.vertexEnter "a", .unionEnter, .nestedExit 0, .startExit,
      .unionExit false, .vertexEnter "b"]
    let front : List Step := [.nodeType "a", .unionOpen, .collect false, .unionClose]
    (processAll ⟨{}, none⟩ {} events).steps = front ++ [.edge "a" "b" []] ∧
      "a" ∈ front.filterMap Step.entered? ∧ ∃ root, .nodeType root ∈ front := by
  intro events front
  have split : (processAll ⟨{}, none⟩ {} events).steps = front ++ [.edge "a" "b" []] := by decide
  exact ⟨split, steps_mention_visited_vertices ⟨{}, none⟩ events split rfl⟩

end Traversal
