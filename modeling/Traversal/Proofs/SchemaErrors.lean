import Traversal.Proofs.SchemaSets

/-! Which errors a schema causes in a query text. Away from the root an error is about an edge, and
the edges that the machine has checked are those of the steps that it has emitted; so where they come
from is settled by the tree. The keys of the root are checked when it is left, behind the edges of
its blocks and before the hops from it. -/
namespace Traversal
open Compiler Compiler.State

/-! ## Objections to a tree -/

/-- An edge that a query follows, with the labels that constrain it. -/
structure Crossing where
  source : String
  target : String
  labels : List String
  deriving Repr, DecidableEq

/-- The edge that a step follows, if it follows one. -/
def Step.crossing? : Step → Option Crossing
  | .edge source target labels => some ⟨source, target, labels⟩
  | _ => none

/-- The edges in the blocks of the root, in the order in which vertices are entered. -/
def Query.innerCrossings (query : Query) : List Crossing :=
  (Clause.stepsOfList query.root.label query.root.clauses).filterMap Step.crossing?

/-- The edges of the hops from the root, in the order in which vertices are entered. -/
def Query.outerCrossings (query : Query) : List Crossing :=
  (Hop.stepsOfList query.root.label query.hops).filterMap Step.crossing?

/-- All edges that a query follows. -/
def Query.crossings (query : Query) : List Crossing := query.innerCrossings ++ query.outerCrossings

/-- The objections to an edge with its labels. -/
def Schema.objectionsToCrossing (schema : Schema) (crossing : Crossing) : List SchemaError :=
  schema.objectionsToEdge crossing.source crossing.target crossing.labels

/-- All objections to a query, in the order in which its vertices are entered and its root is left.
-/
def Schema.objections (schema : Schema) (structured : Bool) (query : Query) : List SchemaError :=
  query.innerCrossings.flatMap schema.objectionsToCrossing ++
    (if structured then schema.objectionsToKeys query.root.label query.root.filterKeys else []) ++
    query.outerCrossings.flatMap schema.objectionsToCrossing

section

variable {schema : Schema}

theorem objections_eq_nil_iff (structured : Bool) (query : Query) :
    schema.objections structured query = [] ↔
      (∀ crossing ∈ query.crossings, schema.Joins crossing.source crossing.target ∧
        ∀ label ∈ crossing.labels, schema.Connects crossing.source crossing.target label) ∧
      (structured = true → ∃ known, schema.properties query.root.label = some known ∧
        ∀ key ∈ query.root.filterKeys, key ∈ known) := by
  simp only [Schema.objections, Query.crossings, List.append_eq_nil_iff, List.flatMap_eq_nil_iff,
    Schema.objectionsToCrossing, Schema.objectionsToEdge_eq_nil_iff, List.forall_mem_append,
    ← Schema.objectionsToKeys_eq_nil_iff]
  cases structured <;> simp [and_right_comm]

/-- There are objections if an edge may not be, or may not have one of its labels, or if the root is
to be checked and its type is unknown or lacks one of its keys. -/
theorem objections_ne_nil_iff (structured : Bool) (query : Query) :
    schema.objections structured query ≠ [] ↔
      (∃ crossing ∈ query.crossings, ¬ schema.Joins crossing.source crossing.target) ∨
      (∃ crossing ∈ query.crossings, ∃ label ∈ crossing.labels,
        ¬ schema.Connects crossing.source crossing.target label) ∨
      structured = true ∧ (schema.properties query.root.label = none ∨
        ∃ known, schema.properties query.root.label = some known ∧
          ∃ key ∈ query.root.filterKeys, key ∉ known) := by
  have root : (¬ ∃ known, schema.properties query.root.label = some known ∧
      ∀ key ∈ query.root.filterKeys, key ∈ known) ↔
      schema.properties query.root.label = none ∨
        ∃ known, schema.properties query.root.label = some known ∧
          ∃ key ∈ query.root.filterKeys, key ∉ known := by
    cases schema.properties query.root.label <;> simp
  rw [ne_eq, objections_eq_nil_iff, not_and_or, Classical.not_imp, root, ← or_assoc]
  refine or_congr ?_ Iff.rfl
  simp only [not_forall, not_and_or, exists_prop, and_or_left, exists_or]

end

/-! ## Objections along a stream -/

/-- The keys that an event reports, if it reports any. -/
def Event.keys? : Event → Option (List String)
  | .vertexExit _ keys => keys
  | _ => none

section

variable (settings : Settings) (schema : Schema)

/-- An event that reports no keys causes the objections to the edges that it emits. -/
theorem caused_of_unkeyed (state : State) {event : Event} (unkeyed : event.keys? = none) :
    caused ⟨settings, some schema.view⟩ state event =
      (emitted ⟨settings, some schema.view⟩ state event).flatMap fun step =>
        step.crossing?.toList.flatMap schema.objectionsToCrossing := by
  cases event with
  | vertexEnter label =>
    cases current : state.current with
    | none => simp [caused, emitted, current, Step.crossing?]
    | some source =>
      simp only [caused, emitted, current, Step.crossing?, List.flatMap_cons, List.flatMap_nil,
        List.append_nil, Option.toList_some]
      exact schema.edgeErrors_view source label state.pendingLabels
  | propertyFilter filter =>
    cases current : state.current <;> simp [caused, emitted, current, Step.crossing?]
  | vertexExit stored keys =>
    cases unkeyed
    cases stored <;> rfl
  | unionExit stored => cases stored <;> rfl
  | _ => rfl

theorem trace_caused_of_unkeyed (state : State) {events : List Event}
    (unkeyed : ∀ event ∈ events, event.keys? = none) :
    trace caused ⟨settings, some schema.view⟩ state events =
      ((trace emitted ⟨settings, some schema.view⟩ state events).filterMap
        Step.crossing?).flatMap schema.objectionsToCrossing := by
  rw [List.filterMap_eq_flatMap_toList, List.flatMap_assoc]
  exact trace_flatMap _ _ (fun state event member =>
    caused_of_unkeyed settings schema state (unkeyed event member)) state

end

theorem unkeyed_labelEvents (labels : List String) :
    ∀ event ∈ labelEvents labels, event.keys? = none := by
  cases labels <;> simp [labelEvents, Event.keys?]

mutual

/-- Only the root reports keys: no vertex in a clause does. -/
theorem Clause.unkeyed : ∀ (clause : Clause), ∀ event ∈ clause.events, event.keys? = none
  | .filter test => by simp [Clause.events, Event.keys?]
  | .block negated inner => by
    rw [Clause.events, List.forall_mem_cons, List.forall_mem_append]
    exact ⟨rfl, inner.unkeyed, by simp [Event.keys?]⟩

theorem Clause.unkeyedList : ∀ (clauses : List Clause),
    ∀ event ∈ Clause.eventsOfList clauses, event.keys? = none
  | [] => by simp [Clause.eventsOfList]
  | clause :: rest => by
    rw [Clause.eventsOfList, List.forall_mem_append]
    exact ⟨clause.unkeyed, Clause.unkeyedList rest⟩

theorem Vertex.unkeyed : ∀ (vertex : Vertex), ∀ event ∈ vertex.events none, event.keys? = none
  | .mk label clauses stored => by
    rw [Vertex.events, List.forall_mem_cons, List.forall_mem_append]
    exact ⟨rfl, Clause.unkeyedList clauses, by simp [Event.keys?]⟩

theorem Target.unkeyed : ∀ (target : Target), ∀ event ∈ target.events, event.keys? = none
  | .vertex vertex => vertex.unkeyed
  | .union first others stored => by
    rw [Target.events, List.forall_mem_cons, List.forall_mem_append, List.forall_mem_append]
    exact ⟨rfl, ⟨first.unkeyed, Nested.unkeyedOthers others⟩, by simp [Event.keys?]⟩

theorem Hop.unkeyed : ∀ (hop : Hop), ∀ event ∈ hop.events, event.keys? = none
  | .mk labels target => by
    rw [Hop.events, List.forall_mem_append]
    exact ⟨unkeyed_labelEvents labels, target.unkeyed⟩

theorem Hop.unkeyedList : ∀ (hops : List Hop),
    ∀ event ∈ Hop.eventsOfList hops, event.keys? = none
  | [] => by simp [Hop.eventsOfList]
  | hop :: rest => by
    rw [Hop.eventsOfList, List.forall_mem_append]
    exact ⟨hop.unkeyed, Hop.unkeyedList rest⟩

theorem Nested.unkeyed : ∀ (statement : Nested), ∀ event ∈ statement.events, event.keys? = none
  | .mk labels head hops => by
    rw [Nested.events, List.forall_mem_cons, List.forall_mem_append, List.forall_mem_append,
      List.forall_mem_append]
    exact ⟨rfl, ⟨⟨unkeyed_labelEvents labels, head.unkeyed⟩, Hop.unkeyedList hops⟩,
      by simp [Event.keys?]⟩

theorem Nested.unkeyedOthers : ∀ (others : List Nested),
    ∀ event ∈ Nested.eventsOfOthers others, event.keys? = none
  | [] => by simp [Nested.eventsOfOthers]
  | member :: rest => by
    rw [Nested.eventsOfOthers, List.forall_mem_cons, List.forall_mem_append]
    exact ⟨rfl, member.unkeyed, Nested.unkeyedOthers rest⟩

end

/-! ## Objections to an accepted text -/

section

variable (settings : Settings) (schema : Schema)

/-- A finished part of a stream was emitted by its own events. -/
theorem trace_emitted_of_passed {context : Context} {state : State} {events : List Event}
    {steps : List Step} {nodes : List String} {results : List (List String)}
    (passed : Passed state (processAll context state events) steps nodes results) :
    trace emitted context state events = steps :=
  List.append_cancel_left ((steps_processAll context state events).symm.trans passed.steps)

/-- The root is entered without an objection. The edges of its blocks come before its own keys. -/
theorem trace_caused_root (root : Vertex) {state : State} (path : state.nodes = [])
    (free : state.pendingLabels = []) :
    trace caused ⟨settings, some schema.view⟩ state (root.events (some root.filterKeys)) =
      ((Clause.stepsOfList root.label root.clauses).filterMap Step.crossing?).flatMap
          schema.objectionsToCrossing ++
        if settings.validateStructure then schema.objectionsToKeys root.label root.filterKeys
        else [] := by
  obtain ⟨label, clauses, stored⟩ := root
  let context : Context := ⟨settings, some schema.view⟩
  let keys := clauses.filterMap Clause.key?
  let entered := state.enterVertex context label
  let narrowed := processAll context entered (Clause.eventsOfList clauses)
  have current : state.current = none := by rw [State.current, path]; rfl
  have enter := entered_as_root context label path free
  have inner := Clause.passedList context clauses enter.nodes enter.pendingLabels
  have entering : caused context state (.vertexEnter label) = [] := by
    simp only [caused, current]
  have crossing : trace caused context entered (Clause.eventsOfList clauses) = _ :=
    trace_caused_of_unkeyed settings schema entered (Clause.unkeyedList clauses)
  rw [trace_emitted_of_passed inner] at crossing
  have opened : narrowed.openVertices.head? = some label := by
    rw [show narrowed.openVertices = _ from inner.openVertices, enter.openVertices]
    rfl
  have leaving : caused context narrowed (.vertexExit stored (some keys)) =
      if settings.validateStructure then schema.objectionsToKeys label keys else [] := by
    simp only [caused, opened, Context.keyErrors]
    cases settings.validateStructure with
    | false => rfl
    | true => exact schema.keyErrors_view label keys
  rw [Vertex.events, trace, trace_append, entering]
  change [] ++ (trace caused context entered (Clause.eventsOfList clauses) ++
    (caused context narrowed (.vertexExit stored (some keys)) ++ [])) = _
  rw [crossing, leaving, List.append_nil, List.nil_append]
  rfl

/-- The errors that the stream of a tree causes are the objections to the tree. -/
theorem trace_caused_query (query : Query) :
    trace caused ⟨settings, some schema.view⟩ {} query.events =
      schema.objections settings.validateStructure query := by
  obtain ⟨root, hops, limit⟩ := query
  let context : Context := ⟨settings, some schema.view⟩
  let started := process context (process context {} .queryEnter) .startEnter
  let left := processAll context started (root.events (some root.filterKeys))
  have path : started.nodes = [] := rfl
  have first := root.passed context (some root.filterKeys)
    (entered_as_root context root.label path rfl)
  have others := Hop.passedList context hops first.nodes first.pendingLabels
  have inner : trace caused context started (root.events (some root.filterKeys)) = _ :=
    trace_caused_root settings schema root path rfl
  have outer : trace caused context left (Hop.eventsOfList hops) = _ :=
    trace_caused_of_unkeyed settings schema left (Hop.unkeyedList hops)
  rw [trace_emitted_of_passed others] at outer
  have limited (state : State) : trace caused context state (limitEvents limit) = [] := by
    cases limit <;> rfl
  have closed (state : State) : trace caused context state [.startExit, .queryExit] = [] := rfl
  rw [Query.events, trace, trace, trace_append, trace_append, trace_append, limited, closed]
  change [] ++ ([] ++ (trace caused context started (root.events (some root.filterKeys)) ++
    trace caused context left (Hop.eventsOfList hops) ++ [] ++ [])) = _
  rw [inner, outer, List.append_nil, List.append_nil]
  rfl

end

/-- Schema checks are exact. An accepted text that marks output is rejected by the schema if and only
if an edge that its tree follows may not be or may not have one of the labels written for it, or the
structure is to be checked and the type of the root is unknown or lacks a key of the root's own
filters. The errors are the objections to the tree, each in its place; no key of any other vertex
makes a difference. -/
theorem schema_checks_are_exact (settings : Settings) (schema : Schema) (text : String)
    (events : List Event) (accepted : parseEvents text = .ok events)
    (marked : ∃ event ∈ events, event.marksOutput = true) :
    ∃ query : Query, Query.parse text.toList = .ok query ∧ query.events = events ∧
      (∀ messages, compile settings (some schema.view) text = .error (.schema messages) ↔
        schema.objections settings.validateStructure query ≠ [] ∧
          messages = (schema.objections settings.validateStructure query).map
            SchemaError.message) ∧
      ((∃ messages, compile settings (some schema.view) text = .error (.schema messages)) ↔
        (∃ crossing ∈ query.crossings, ¬ schema.Joins crossing.source crossing.target) ∨
        (∃ crossing ∈ query.crossings, ∃ label ∈ crossing.labels,
          ¬ schema.Connects crossing.source crossing.target label) ∨
        settings.validateStructure = true ∧ (schema.properties query.root.label = none ∨
          ∃ known, schema.properties query.root.label = some known ∧
            ∃ key ∈ query.root.filterKeys, key ∉ known)) := by
  obtain ⟨query, parsed, rfl⟩ := parse_of_parseEvents accepted
  have verdict (messages : List String) :
      compile settings (some schema.view) text = .error (.schema messages) ↔
        schema.objections settings.validateStructure query ≠ [] ∧
          messages = (schema.objections settings.validateStructure query).map
            SchemaError.message := by
    have compiled : compile settings (some schema.view) text =
        compileEvents settings (some schema.view) query.events := by
      unfold compile
      rw [accepted]
    have output : query.events.any Event.marksOutput = true := List.any_eq_true.mpr marked
    rw [compiled, compileEvents_eq, verdictOf_eq_schema_iff, trace_caused_query, output]
    exact and_iff_right rfl
  refine ⟨query, parsed, rfl, verdict, ?_⟩
  rw [← objections_ne_nil_iff]
  constructor
  · rintro ⟨messages, rejected⟩
    exact ((verdict messages).mp rejected).1
  · intro objections
    exact ⟨_, (verdict _).mpr ⟨objections, rfl⟩⟩

/-- The keys `y` and `z` stand inside a block and behind a hop; `l` waits for the first member of the
union, which has a label of its own. -/
theorem block_and_union_are_checked :
    let schema : Schema := ⟨[("a", ["k"])], [⟨"b", "a", "m", .tree⟩, ⟨"a", "c", "n", .cousin⟩]⟩
    compile { validateStructure := true } (some schema.view)
        "a('k')(>('m','o','o')b('y'))('x')>('l')[('m')c,d*('z')]" = .error (.schema
      ["no edge rule between `a` and `b` with label `o`",
        "no edge rule between `a` and `b` with label `o`",
        "invalid filter key `x` for node type `a`",
        "no edge rule between `a` and `c` with label `m`",
        "no edge rule between `a` and `d`"]) := by
  intro schema
  let tree : Query := ⟨.mk "a" [.filter ⟨"k", false, []⟩,
      .block false (.mk ["m", "o", "o"] (.mk "b" [.filter ⟨"y", false, []⟩] false) []),
      .filter ⟨"x", false, []⟩] false,
    [.mk ["l"] (.union (.mk ["m"] (.mk "c" [] false) [])
      [.mk [] (.mk "d" [.filter ⟨"z", false, []⟩] true) []] false)], none⟩
  have parsed : Query.parse "a('k')(>('m','o','o')b('y'))('x')>('l')[('m')c,d*('z')]".toList =
      .ok tree := by cbv
  have accepted : parseEvents "a('k')(>('m','o','o')b('y'))('x')>('l')[('m')c,d*('z')]" =
      .ok tree.events := by
    rw [parseEvents, parsed]
    rfl
  obtain ⟨query, parsed', -, verdict, -⟩ :=
    schema_checks_are_exact { validateStructure := true } schema _ _ accepted (by decide)
  cases parsed.symm.trans parsed'
  exact (verdict _).mpr ⟨by decide, by decide⟩

end Traversal
