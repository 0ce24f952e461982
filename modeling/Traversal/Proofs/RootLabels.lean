import Traversal.Proofs.Gates

/-! Edge labels in front of a root. No edge leads to a root, so nothing takes the labels when it is
entered. They are not dropped there either: they wait on, and the next edge that is followed before
the root is left, or before other labels are written, takes them. -/
namespace Traversal
open Compiler Compiler.State

namespace Compiler

/-- Whether an event settles what becomes of the labels that wait: it replaces them, drops them, or
follows an edge, which takes them. -/
def State.settles (state : State) : Event → Bool
  | .edgeFilter _ | .vertexExit _ _ => true
  | .vertexEnter _ => state.current.isSome
  | _ => false

/-- The labels that wait in a state still wait behind some events. -/
def WaitOn (context : Context) : State → List Event → Prop
  | _, [] => True
  | state, event :: rest =>
    state.settles event = false ∧ WaitOn context (process context state event) rest

/-- The labels that wait in a state are taken by an edge: the one to `target`, behind the events
`before`. -/
structure Taken (context : Context) (state : State) (events before : List Event)
    (source target : String) : Prop where
  waitOn : WaitOn context state before
  source : (processAll context state before).current = some source
  entered : ∃ after, events = before ++ .vertexEnter target :: after

end Compiler

variable {context : Context}

/-! ## Compilations that are abreast in one context -/

section

variable {α : Type} {added : Context → State → Event → List α}

/-- What is added without a look at the scopes is the same for compilations that are abreast. -/
theorem trace_abreast
    (same : ∀ {left right : State}, Abreast left right → ∀ event,
      added context right event = added context left event)
    {left right : State} (abreast : Abreast left right) (events : List Event) :
    trace added context right events = trace added context left events := by
  induction events generalizing left right with
  | nil => rfl
  | cons event rest ih =>
    rw [trace, trace, same abreast event, ih (abreast.process context context event)]

end

theorem emitted_of_abreast {left right : State} (abreast : Abreast left right) (event : Event) :
    emitted context right event = emitted context left event := by
  obtain ⟨scopes, rfl⟩ := abreast
  cases event <;> rfl

theorem caused_of_abreast {left right : State} (abreast : Abreast left right) (event : Event) :
    caused context right event = caused context left event := by
  obtain ⟨scopes, rfl⟩ := abreast
  cases event with
  | vertexExit stored keys => cases keys <;> rfl
  | _ => rfl

/-! ## Labels that wait -/

section

variable {state : State} {labels : List String} {event : Event}

/-- An event that settles nothing does the same whatever labels wait, and they wait on. -/
theorem process_of_unsettled (unsettled : state.settles event = false) :
    process context { state with pendingLabels := labels } event =
      { process context state event with pendingLabels := labels } := by
  cases event with
  | edgeFilter written | vertexExit stored keys => cases unsettled
  | vertexEnter label =>
    have path : state.nodes.head? = none :=
      Option.isNone_iff_eq_none.mp (Option.isSome_eq_false_iff.mp unsettled)
    simp only [process, enterVertex, State.current, path]
    rfl
  | propertyFilter filter =>
    simp only [process, applyFilter, State.current]
    cases state.nodes.head? <;> rfl
  | nestedExit count =>
    rw [process, process, exitNested_eq, exitNested_eq]
    rfl
  | _ => rfl

theorem processAll_of_waitOn (labels : List String) {events : List Event}
    (waitOn : WaitOn context state events) :
    processAll context { state with pendingLabels := labels } events =
      { processAll context state events with pendingLabels := labels } := by
  induction events generalizing state with
  | nil => rfl
  | cons event rest ih =>
    obtain ⟨unsettled, others⟩ := waitOn
    rw [processAll_cons, processAll_cons, process_of_unsettled unsettled]
    exact ih others

/-- Labels that wait on are those that waited. -/
theorem pendingLabels_of_waitOn {events : List Event} (waitOn : WaitOn context state events) :
    (processAll context state events).pendingLabels = state.pendingLabels := by
  have waiting := congrArg State.pendingLabels (processAll_of_waitOn state.pendingLabels waitOn)
  exact waiting

/-- An event that settles what becomes of the labels without following an edge replaces or drops
them, so that it does not matter which they were. -/
theorem process_of_settled (settled : state.settles event = true)
    (unmoved : ∀ target, event ≠ .vertexEnter target) :
    process context { state with pendingLabels := labels } event = process context state event := by
  cases event with
  | edgeFilter written | vertexExit stored keys => rfl
  | vertexEnter target => exact absurd rfl (unmoved target)
  | _ => cases settled

/-- If no edge takes the labels that wait, they make no difference to anything else. -/
theorem processAll_of_untaken {events : List Event}
    (untaken : ¬ ∃ before source target, Taken context state events before source target) :
    ∃ waiting, processAll context { state with pendingLabels := labels } events =
      { processAll context state events with pendingLabels := waiting } := by
  induction events generalizing state with
  | nil => exact ⟨labels, rfl⟩
  | cons event rest ih =>
    rw [processAll_cons, processAll_cons]
    cases settled : state.settles event with
    | false =>
      rw [process_of_unsettled settled]
      refine ih fun ⟨before, source, target, taken⟩ => untaken ⟨event :: before, source, target, ?_⟩
      obtain ⟨after, split⟩ := taken.entered
      exact ⟨⟨settled, taken.waitOn⟩, taken.source, after, congrArg (event :: ·) split⟩
    | true =>
      have unmoved (target : String) : event ≠ .vertexEnter target := by
        rintro rfl
        obtain ⟨source, path⟩ := Option.isSome_iff_exists.mp settled
        exact untaken ⟨[], source, target, trivial, path, rest, rfl⟩
      rw [process_of_settled settled unmoved]
      exact ⟨_, rfl⟩

/-- A stream that begins with an edge: its labels are those that wait. -/
theorem processAll_edge (context : Context) {source : String}
    (path : state.current = some source) (target : String) (rest : List Event) :
    let entered := process context state (.vertexEnter target)
    let last := processAll context state (.vertexEnter target :: rest)
    last.steps = state.steps ++
        .edge source target state.pendingLabels :: trace emitted context entered rest ∧
      last.errors = state.errors ++ context.edgeErrors source target state.pendingLabels ++
        trace caused context entered rest := by
  intro entered last
  have edge : emitted context state (.vertexEnter target) =
      [.edge source target state.pendingLabels] := by simp only [emitted, path]
  have objections : caused context state (.vertexEnter target) =
      context.edgeErrors source target state.pendingLabels := by simp only [caused, path]
  constructor
  · rw [steps_processAll, trace, edge]
    rfl
  · rw [errors_processAll, trace, objections, List.append_assoc]

/-- Whatever labels an edge takes, the compilations are abreast behind it. -/
theorem abreast_of_edge {source : String} (path : state.current = some source) (target : String)
    (labels : List String) :
    Abreast (process context state (.vertexEnter target))
      (process context { state with pendingLabels := labels } (.vertexEnter target)) := by
  have current : state.nodes.head? = some source := path
  simp only [process, enterVertex, State.current, current]
  exact ⟨_, rfl⟩

/-- The edge that takes the labels carries them, and everything else is as if there were none. -/
theorem steps_of_taken (labels : List String) {events before : List Event} {source target : String}
    (free : state.pendingLabels = [])
    (taken : Taken context state events before source target) :
    let plain := processAll context state events
    let labelled := processAll context { state with pendingLabels := labels } events
    let reached := processAll context state before
    ∃ steps errors,
      plain.steps = reached.steps ++ .edge source target [] :: steps ∧
      labelled.steps = reached.steps ++ .edge source target labels :: steps ∧
      plain.errors = reached.errors ++ context.edgeErrors source target [] ++ errors ∧
      labelled.errors = reached.errors ++ context.edgeErrors source target labels ++ errors := by
  intro plain labelled reached
  obtain ⟨after, rfl⟩ := taken.entered
  have plain' : plain = processAll context reached (.vertexEnter target :: after) :=
    processAll_append context state _ _
  have labelled' : labelled = processAll context { reached with pendingLabels := labels }
      (.vertexEnter target :: after) := by
    refine (processAll_append context _ _ _).trans ?_
    rw [processAll_of_waitOn labels taken.waitOn]
  have pending : reached.pendingLabels = [] := (pendingLabels_of_waitOn taken.waitOn).trans free
  have abreast : Abreast (process context reached (.vertexEnter target))
      (process context { reached with pendingLabels := labels } (.vertexEnter target)) :=
    abreast_of_edge taken.source target labels
  have current : { reached with pendingLabels := labels }.current = some source := taken.source
  obtain ⟨steps, errors⟩ := processAll_edge context taken.source target after
  obtain ⟨steps', errors'⟩ := processAll_edge context current target after
  rw [pending] at steps errors
  rw [trace_abreast emitted_of_abreast abreast] at steps'
  rw [trace_abreast caused_of_abreast abreast] at errors'
  rw [plain', labelled']
  exact ⟨_, _, steps, steps', errors, errors'⟩

/-- Labels that wait where none did before make no difference if and only if there are none of them or
no edge takes them. -/
theorem ignored_iff_untaken (labels : List String) (events : List Event)
    (free : state.pendingLabels = []) :
    let plain := processAll context state events
    let labelled := processAll context { state with pendingLabels := labels } events
    labelled.steps = plain.steps ∧ labelled.errors = plain.errors ↔
      labels = [] ∨ ¬ ∃ before source target, Taken context state events before source target := by
  intro plain labelled
  constructor
  · rintro ⟨same, -⟩
    refine or_iff_not_imp_right.mpr fun edge => ?_
    obtain ⟨before, source, target, taken⟩ := Classical.not_not.mp edge
    obtain ⟨steps, errors, unmarked, marked, -⟩ := steps_of_taken labels free taken
    have edges := List.append_cancel_left (marked.symm.trans (same.trans unmarked))
    cases edges
    rfl
  · rintro (rfl | untaken)
    · have unmarked : { state with pendingLabels := [] } = state := by rw [← free]
      simp only [labelled, plain, unmarked, and_self]
    · obtain ⟨waiting, same⟩ : ∃ waiting, labelled = { plain with pendingLabels := waiting } :=
        processAll_of_untaken untaken
      rw [same]
      exact ⟨rfl, rfl⟩

end

/-! ## Labels in front of a root -/

/-- Labels in front of a root wait behind it, and nothing else has changed there. -/
theorem processAll_behind_root {state : State} (path : state.nodes = [])
    (free : state.pendingLabels = []) (labels : List String) (root : String) :
    let entered := processAll context state [.vertexEnter root]
    entered.pendingLabels = [] ∧ processAll context state [.edgeFilter labels, .vertexEnter root] =
      { entered with pendingLabels := labels } := by
  have unsettled : state.settles (.vertexEnter root) = false := by
    have current : state.current = none := congrArg List.head? path
    simp only [settles, current, Option.isSome_none]
  have waitOn : WaitOn context state [.vertexEnter root] := ⟨unsettled, trivial⟩
  exact ⟨(pendingLabels_of_waitOn waitOn).trans free, processAll_of_waitOn labels waitOn⟩

/-- Labels in front of a root do not constrain the root, but they wait on behind it. If an edge takes
them, it carries them, and the steps and the errors are otherwise as if they had not been written.
They are ignored if and only if there are none of them or no edge takes them. -/
theorem root_labels_bind_the_next_edge (context : Context) (front back : List Event)
    (labels : List String) (root : String) (path : (processAll context {} front).nodes = [])
    (free : (processAll context {} front).pendingLabels = []) :
    let entered := processAll context {} (front ++ [.vertexEnter root])
    let plain := processAll context {} (front ++ .vertexEnter root :: back)
    let labelled := processAll context {} (front ++ .edgeFilter labels :: .vertexEnter root :: back)
    (∀ before source target, Taken context entered back before source target →
      let reached := processAll context entered before
      ∃ steps errors,
        plain.steps = reached.steps ++ .edge source target [] :: steps ∧
        labelled.steps = reached.steps ++ .edge source target labels :: steps ∧
        plain.errors = reached.errors ++ context.edgeErrors source target [] ++ errors ∧
        labelled.errors = reached.errors ++ context.edgeErrors source target labels ++ errors) ∧
      (labelled.steps = plain.steps ∧ labelled.errors = plain.errors ↔
        labels = [] ∨ ¬ ∃ before source target, Taken context entered back before source target) := by
  intro entered plain labelled
  have entered' : entered = processAll context (processAll context {} front) [.vertexEnter root] :=
    processAll_append context {} front _
  obtain ⟨free', behind⟩ := processAll_behind_root path free labels root
  rw [← entered'] at free' behind
  have plain' : plain = processAll context entered back := by
    rw [← processAll_append, List.append_assoc]
    rfl
  have labelled' : labelled = processAll context { entered with pendingLabels := labels } back := by
    rw [← behind, ← processAll_append, ← processAll_append]
    rfl
  rw [plain', labelled']
  exact ⟨fun before source target taken => steps_of_taken labels free' taken,
    ignored_iff_untaken labels back free'⟩

/-- The labels `l` stand in front of the root `a`; the edge to `b`, in a block of the root, takes them.
Were the block behind the end of the root, nothing would. -/
theorem edge_in_a_block_takes_root_labels :
    let context : Context := ⟨{}, some Schema.empty.view⟩
    let front : List Event := [.queryEnter, .startEnter]
    let block : List Event := [.whereEnter false, .nestedEnter, .vertexEnter "b",
      .vertexExit false none, .nestedExit 1, .whereExit false]
    let ending : List Event := [.startExit, .queryExit]
    let steps (lead back : List Event) :=
      (processAll context {} (front ++ (lead ++ .vertexEnter "a" :: back))).steps
    (∃ rest, steps [.edgeFilter ["l"]] (block ++ .vertexExit true none :: ending) =
        .start :: .nodeType "a" :: .whereOpen false :: .startInstance :: .edge "a" "b" ["l"] :: rest ∧
      steps [] (block ++ .vertexExit true none :: ending) =
        .start :: .nodeType "a" :: .whereOpen false :: .startInstance :: .edge "a" "b" [] :: rest) ∧
      steps [.edgeFilter ["l"]] (.vertexExit true none :: block ++ ending) =
        steps [] (.vertexExit true none :: block ++ ending) := by
  intro context front block ending steps
  obtain ⟨edge, -⟩ := root_labels_bind_the_next_edge context front
    (block ++ .vertexExit true none :: ending) ["l"] "a" rfl rfl
  obtain ⟨-, ignored⟩ := root_labels_bind_the_next_edge context front
    (.vertexExit true none :: block ++ ending) ["l"] "a" rfl rfl
  constructor
  · obtain ⟨rest, errors, plain, labelled, -⟩ := edge [.whereEnter false, .nestedEnter] "a" "b"
      ⟨⟨rfl, rfl, trivial⟩, rfl, _, rfl⟩
    exact ⟨rest, labelled, plain⟩
  · refine (ignored.mpr (Or.inr ?_)).1
    rintro ⟨before, source, target, taken⟩
    obtain ⟨after, split⟩ := taken.entered
    cases before with
    | nil => cases split
    | cons event before =>
      obtain ⟨rfl, -⟩ := List.cons.inj split
      exact Bool.noConfusion taken.waitOn.1

/-- Labels in front of a root are not ignored by every stream. -/
theorem root_labels_are_not_always_ignored :
    ¬ ∀ (context : Context) (front back : List Event) (labels : List String) (root : String),
      (processAll context {} front).nodes = [] → (processAll context {} front).pendingLabels = [] →
        let plain := processAll context {} (front ++ .vertexEnter root :: back)
        let labelled :=
          processAll context {} (front ++ .edgeFilter labels :: .vertexEnter root :: back)
        labelled.steps = plain.steps ∧ labelled.errors = plain.errors := by
  intro ignored
  have block := ignored ⟨{}, none⟩ [.queryEnter, .startEnter] [.whereEnter false, .nestedEnter,
    .vertexEnter "b", .vertexExit false none, .nestedExit 1, .whereExit false, .vertexExit true none,
    .startExit, .queryExit] ["l"] "a" rfl rfl
  exact absurd block.1 (by decide)

end Traversal
