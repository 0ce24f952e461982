import Mathlib
import Traversal.Proofs.Machine
import Traversal.Query.Steps

/-! The machine emits the steps of the tree. It never sees the tree: the sources of edges, the
vertices of filters and the results of unions come off its stacks. The invariant of the induction
says what a finished part of the stream leaves on each stack, whatever lay there before. -/
namespace Traversal
open Compiler Compiler.State

/-- What a finished part of a stream leaves behind. It has emitted some steps and left a path and
lists of results; no label waits for an edge, and no vertex is open that was not open before. -/
structure Passed (before after : State) (emitted : List Step) (nodes : List String)
    (results : List (List String)) : Prop where
  steps : after.steps = before.steps ++ emitted
  nodes : after.nodes = nodes
  results : after.results = results
  pendingLabels : after.pendingLabels = []
  openVertices : after.openVertices = before.openVertices

/-- Two parts one after the other. -/
theorem Passed.trans {before middle after : State} {first second : List Step}
    {passedNodes nodes : List String} {passedResults results : List (List String)}
    (left : Passed before middle first passedNodes passedResults)
    (right : Passed middle after second nodes results) :
    Passed before after (first ++ second) nodes results where
  steps := by rw [right.steps, left.steps, List.append_assoc]
  nodes := right.nodes
  results := right.results
  pendingLabels := right.pendingLabels
  openVertices := right.openVertices.trans left.openVertices

/-- A part behind a step that opens it. -/
theorem Passed.opened {before opened after : State} {first emitted : List Step}
    {nodes : List String} {results : List (List String)}
    (passed : Passed opened after emitted nodes results)
    (steps : opened.steps = before.steps ++ first)
    (same : opened.openVertices = before.openVertices) :
    Passed before after (first ++ emitted) nodes results where
  steps := by rw [passed.steps, steps, List.append_assoc]
  nodes := passed.nodes
  results := passed.results
  pendingLabels := passed.pendingLabels
  openVertices := passed.openVertices.trans same

/-- The path and the results may be written in another way. -/
theorem Passed.cast {before after : State} {emitted : List Step} {nodes nodes' : List String}
    {results results' : List (List String)} (passed : Passed before after emitted nodes results)
    (path : nodes = nodes') (found : results = results') :
    Passed before after emitted nodes' results' := path ▸ found ▸ passed

/-- A vertex has been entered: one step was emitted for it, and it is the end of the path. -/
structure Entered (before after : State) (enter : Step) (label : String) : Prop where
  steps : after.steps = before.steps ++ [enter]
  nodes : after.nodes = label :: before.nodes
  results : after.results = before.results
  pendingLabels : after.pendingLabels = []
  openVertices : after.openVertices = label :: before.openVertices

variable (context : Context)

/-- A vertex behind another is entered by an edge from the end of the path. -/
theorem entered_by_edge (label : String) {state : State} {source : String} {below : List String}
    (path : state.nodes = source :: below) :
    Entered state (state.enterVertex context label) (.edge source label state.pendingLabels)
      label := by
  have current : state.current = some source := by rw [State.current, path]; rfl
  constructor <;> simp only [enterVertex, current]
  · exact (steps_emit _ _).trans (by rw [steps_report])
  · rfl
  · rfl
  · rfl

/-- The first vertex of all is entered as the root. -/
theorem entered_as_root (label : String) {state : State} (path : state.nodes = [])
    (free : state.pendingLabels = []) :
    Entered state (state.enterVertex context label) (.nodeType label) label := by
  have current : state.current = none := by rw [State.current, path]; rfl
  constructor <;> simp only [enterVertex, current]
  · exact steps_emit _ _
  · rfl
  · rfl
  · exact free
  · rfl

/-- Leaving a vertex emits its mark and closes it. -/
theorem passed_exitVertex (stored : Bool) (keys : Option (List String)) {before state : State}
    {label : String} {emitted : List Step} {nodes : List String} {results : List (List String)}
    (steps : state.steps = before.steps ++ emitted) (path : state.nodes = nodes)
    (found : state.results = results)
    (opened : state.openVertices = label :: before.openVertices) :
    Passed before (state.exitVertex context stored keys) (emitted ++ storeSteps stored) nodes
      results where
  steps := by
    refine (steps_markOutput stored (state.report _)).trans ?_
    rw [steps_report, steps, List.append_assoc]
    rfl
  nodes := path
  results := found
  pendingLabels := rfl
  openVertices := congrArg List.tail opened

private theorem values_of_kind (pick : Literal → Option String) (wrap : String → Value)
    (rank : Nat) (kind : ∀ literal, (pick literal).map wrap =
      if literal.rank = rank then some literal.value else none) (literals : List Literal) :
    (literals.filterMap pick).map wrap =
      (literals.filter (·.rank = rank)).map Literal.value := by
  rw [List.map_filterMap, funext kind]
  induction literals with
  | nil => rfl
  | cons literal rest ih => by_cases same : literal.rank = rank <;> simp [same, ih]

/-- A filter's step compares with the values as the tree sorts them. -/
theorem Filter.event_values (filter : Filter) : filter.event.values = filter.comparisons := by
  have texts := values_of_kind Literal.text? Value.literal 0 (by intro literal; cases literal <;> rfl)
  have numbers :=
    values_of_kind Literal.number? Value.number 1 (by intro literal; cases literal <;> rfl)
  have booleans :=
    values_of_kind Literal.boolean? booleanValue 2 (by intro literal; cases literal <;> rfl)
  simp only [FilterEvent.values, Filter.event, texts, numbers, booleans, Filter.comparisons,
    List.flatMap_cons, List.flatMap_nil, List.append_nil, List.map_append, List.append_assoc]

/-- The labels written at a place replace those that wait there already. -/
theorem pendingLabels_labelEvents (labels : List String) (state : State) :
    processAll context state (labelEvents labels) =
      { state with pendingLabels := chosenLabels labels state.pendingLabels } := by
  cases labels with
  | nil => rfl
  | cons label rest => rfl

/-- The types of the vertices at which hops end, the last first: what they leave on the path. -/
def Hop.trail : List Hop → List String
  | [] => []
  | hop :: rest => Hop.trail rest ++ [hop.result]

theorem Hop.length_trail (hops : List Hop) : (Hop.trail hops).length = hops.length := by
  induction hops with
  | nil => rfl
  | cons hop rest ih => simp [Hop.trail, ih]

/-- The top of what hops leave on the path is where they end. -/
theorem Hop.head?_trail (source : String) (below : List String) (hops : List Hop) :
    (Hop.trail hops ++ source :: below).head? = some (Hop.resultOfList source hops) := by
  induction hops generalizing source below with
  | nil => rfl
  | cons hop rest ih =>
    rw [Hop.trail, List.append_assoc, Hop.resultOfList]
    exact ih hop.result (source :: below)

/-- Ending a nested statement removes from the path what it put there, and collects its result. -/
theorem exitNested_of_path {state : State} {visited below : List String} {result : String}
    (path : state.nodes = visited ++ below) (last : state.nodes.head? = some result) :
    state.exitNested visited.length =
      { state with nodes := below, results := collect result state.results } := by
  have current : state.current = some result := last
  simp only [exitNested, current, collectResult, path, List.drop_left]

@[simp] theorem chosenLabels_nil (labels : List String) : chosenLabels labels [] = labels := by
  cases labels <;> rfl

theorem steps_exitUnion (stored : Bool) (state : State) :
    (state.exitUnion stored).steps = state.steps ++ .unionClose :: storeSteps stored := by
  refine (steps_markOutput stored _).trans ?_
  rw [steps_emit, List.append_assoc]
  rfl

/-- The result of a union is that of its first member. -/
theorem nodes_exitUnion {state : State} {first : String} {others : List String}
    {outer : List (List String)} (stored : Bool)
    (found : state.results = (first :: others) :: outer) :
    (state.exitUnion stored).nodes = first :: state.nodes := by
  simp only [exitUnion, found]
  rfl

mutual

/-- A clause emits its steps and leaves the path alone. -/
theorem Clause.passed : ∀ (clause : Clause) {state : State} {node : String} {below : List String},
    state.nodes = node :: below → state.pendingLabels = [] →
    Passed state (processAll context state clause.events) (clause.steps node) state.nodes
      state.results
  | .filter test, state, node, below, path, free => by
    have current : state.current = some node := by rw [State.current, path]; rfl
    have emitted : processAll context state (Clause.events (.filter test)) =
        state.emit (.filter node test.key test.negated test.comparisons) := by
      rw [Clause.events, processAll_cons, processAll_nil, ← test.event_values]
      simp only [process, applyFilter, current]
      rfl
    rw [emitted]
    exact ⟨steps_emit _ _, rfl, rfl, free, rfl⟩
  | .block negated inner, state, node, below, path, free => by
    let opened := process context state (.whereEnter negated)
    have path' : opened.nodes = node :: below := path
    have statement := (inner.passed path').opened (steps_emit _ state) rfl
    rw [Clause.events, processAll_cons, processAll_append, processAll_cons, processAll_nil]
    let ended := processAll context opened inner.events
    have closing : Passed ended (process context ended (.whereExit negated)) [.whereClose negated]
        state.nodes state.results :=
      ⟨steps_emit _ ended, statement.nodes, congrArg List.tail statement.results,
        statement.pendingLabels, rfl⟩
    have whole := statement.trans closing
    rw [show opened.pendingLabels = [] from free] at whole
    simpa only [Clause.steps, List.cons_append, List.nil_append] using whole

/-- Clauses emit their steps in order. -/
theorem Clause.passedList : ∀ (clauses : List Clause) {state : State} {node : String}
    {below : List String}, state.nodes = node :: below → state.pendingLabels = [] →
    Passed state (processAll context state (Clause.eventsOfList clauses))
      (Clause.stepsOfList node clauses) state.nodes state.results
  | [], state, node, below, path, free => ⟨(List.append_nil _).symm, rfl, rfl, free, rfl⟩
  | clause :: rest, state, node, below, path, free => by
    have first := clause.passed path free
    have others := Clause.passedList rest (first.nodes.trans path) first.pendingLabels
    rw [Clause.eventsOfList, processAll_append]
    exact (first.trans others).cast first.nodes first.results

/-- What stands in a vertex belongs to it, however the vertex was entered. -/
theorem Vertex.passed : ∀ (vertex : Vertex) (keys : Option (List String)) {state : State}
    {enter : Step}, Entered state (state.enterVertex context vertex.label) enter vertex.label →
    Passed state (processAll context state (vertex.events keys)) (enter :: vertex.innerSteps)
      (vertex.label :: state.nodes) state.results
  | .mk label clauses stored, keys, state, enter, entered => by
    have inner := Clause.passedList clauses entered.nodes entered.pendingLabels
    rw [Vertex.events, processAll_cons, processAll_append, processAll_cons, processAll_nil]
    let ended := processAll context (state.enterVertex context label) (Clause.eventsOfList clauses)
    have steps : ended.steps = state.steps ++ (enter :: Clause.stepsOfList label clauses) := by
      refine inner.steps.trans ?_
      rw [entered.steps, List.append_assoc]
      rfl
    exact passed_exitVertex context stored keys steps (inner.nodes.trans entered.nodes)
      (inner.results.trans entered.results) (inner.openVertices.trans entered.openVertices)

/-- A hop's target adds one vertex type to the path, that of its result. -/
theorem Target.passed : ∀ (target : Target) {state : State} {source : String}
    {below : List String}, state.nodes = source :: below →
    Passed state (processAll context state target.events) (target.steps source state.pendingLabels)
      (target.result :: state.nodes) state.results
  | .vertex vertex, state, source, below, path =>
    vertex.passed none (entered_by_edge context vertex.label path)
  | .union first others stored, state, source, below, path => by
    let opened := process context state .unionEnter
    have path' : opened.nodes = source :: below := path
    have member := first.passed path'
    have behind := Nested.passedOthers others (member.nodes.trans path) member.pendingLabels
      member.results
    have members := (member.trans behind).opened (steps_emit _ state) rfl
    rw [Target.events, processAll_cons, processAll_append, processAll_append, processAll_cons,
      processAll_nil]
    let ended := processAll context (processAll context opened first.events)
      (Nested.eventsOfOthers others)
    have closing : Passed ended (process context ended (.unionExit stored))
        (.unionClose :: storeSteps stored) (first.result :: state.nodes) state.results :=
      ⟨steps_exitUnion stored ended,
        (nodes_exitUnion stored members.results).trans
          (congrArg (first.result :: ·) (members.nodes.trans member.nodes)),
        congrArg List.tail members.results, members.pendingLabels, rfl⟩
    have whole := members.trans closing
    rw [show opened.pendingLabels = state.pendingLabels from rfl] at whole
    simpa only [Target.steps, Target.result, List.cons_append, List.nil_append, List.append_assoc]
      using whole

/-- A hop starts from the end of the path. -/
theorem Hop.passed : ∀ (hop : Hop) {state : State} {source : String} {below : List String},
    state.nodes = source :: below → state.pendingLabels = [] →
    Passed state (processAll context state hop.events) (hop.steps source)
      (hop.result :: state.nodes) state.results
  | .mk labels target, state, source, below, path, free => by
    let labelled := { state with pendingLabels := labels }
    have path' : labelled.nodes = source :: below := path
    have steps : labelled.steps = state.steps ++ [] := (List.append_nil _).symm
    have reached := (target.passed path').opened steps rfl
    rw [Hop.events, processAll_append, pendingLabels_labelEvents, free, chosenLabels_nil]
    simpa only [Hop.steps, Hop.result, List.nil_append] using reached

/-- Hops follow one another. -/
theorem Hop.passedList : ∀ (hops : List Hop) {state : State} {source : String}
    {below : List String}, state.nodes = source :: below → state.pendingLabels = [] →
    Passed state (processAll context state (Hop.eventsOfList hops)) (Hop.stepsOfList source hops)
      (Hop.trail hops ++ state.nodes) state.results
  | [], state, source, below, path, free => ⟨(List.append_nil _).symm, rfl, rfl, free, rfl⟩
  | hop :: rest, state, source, below, path, free => by
    have first := hop.passed path free
    have others := Hop.passedList rest first.nodes first.pendingLabels
    rw [Hop.eventsOfList, processAll_append]
    exact (first.trans others).cast (by rw [first.nodes, Hop.trail, List.append_assoc]; rfl)
      first.results

/-- A nested statement leaves the path as it was and hands its result to the open list. -/
theorem Nested.passed : ∀ (statement : Nested) {state : State} {source : String}
    {below : List String}, state.nodes = source :: below →
    Passed state (processAll context state statement.events)
      (.startInstance :: statement.steps source state.pendingLabels) state.nodes
      (collect statement.result state.results)
  | .mk labels head hops, state, source, below, path => by
    let opened := process context state .nestedEnter
    let labelled := { opened with pendingLabels := chosenLabels labels state.pendingLabels }
    have path' : labelled.nodes = source :: below := path
    have entered := head.passed none (entered_by_edge context head.label path')
    have hopped := Hop.passedList hops entered.nodes entered.pendingLabels
    have body := (entered.trans hopped).opened (steps_openScope [.startInstance] state) rfl
    rw [Nested.events, processAll_cons, processAll_append, processAll_append, processAll_append,
      pendingLabels_labelEvents, processAll_cons, processAll_nil]
    let ended := processAll context (processAll context labelled (head.events none))
      (Hop.eventsOfList hops)
    have visited : ended.nodes = (Hop.trail hops ++ [head.label]) ++ state.nodes := by
      rw [show ended.nodes = _ from hopped.nodes, entered.nodes, List.append_assoc]
      rfl
    have last : ended.nodes.head? = some (Hop.resultOfList head.label hops) := by
      rw [visited, List.append_assoc]
      exact Hop.head?_trail head.label state.nodes hops
    have count : 1 + hops.length = (Hop.trail hops ++ [head.label]).length := by
      rw [List.length_append, Hop.length_trail, Nat.add_comm]
      rfl
    have closing : Passed ended (process context ended (.nestedExit (1 + hops.length))) []
        state.nodes (collect (Hop.resultOfList head.label hops) state.results) := by
      rw [count, process, exitNested_of_path visited last]
      exact ⟨(List.append_nil _).symm, rfl,
        congrArg (collect _) (hopped.results.trans entered.results), body.pendingLabels, rfl⟩
    have whole := body.trans closing
    change Passed state (process context ended (.nestedExit (1 + hops.length))) _ _ _
    rw [show labelled.pendingLabels = chosenLabels labels state.pendingLabels from rfl] at whole
    simpa only [Nested.steps, Nested.result, List.cons_append, List.nil_append, List.append_nil]
      using whole

/-- The members of a union behind the first start where the first did. -/
theorem Nested.passedOthers : ∀ (others : List Nested) {state : State} {source : String}
    {below found : List String} {outer : List (List String)}, state.nodes = source :: below →
    state.pendingLabels = [] → state.results = found :: outer →
    Passed state (processAll context state (Nested.eventsOfOthers others))
      (Nested.stepsOfOthers source others) state.nodes
      ((found ++ others.map Nested.result) :: outer)
  | [], state, source, below, found, outer, path, free, earlier =>
    ⟨(List.append_nil _).symm, rfl, by rw [List.map_nil, List.append_nil]; exact earlier, free, rfl⟩
  | member :: rest, state, source, below, found, outer, path, free, earlier => by
    let separated := process context state .comma
    have path' : separated.nodes = source :: below := path
    have first := member.passed path'
    have results : (processAll context separated member.events).results =
        (found ++ [member.result]) :: outer := by
      rw [first.results, show separated.results = _ from earlier]
      rfl
    have others := Nested.passedOthers rest (first.nodes.trans path) first.pendingLabels results
    have whole := (first.trans others).opened (steps_emit _ state) rfl
    rw [show separated.pendingLabels = [] from free] at whole
    rw [Nested.eventsOfOthers, processAll_cons, processAll_append]
    have found' : ((found ++ [member.result]) ++ rest.map Nested.result) :: outer =
        (found ++ (member :: rest).map Nested.result) :: outer := by
      rw [List.append_assoc]
      rfl
    refine Passed.cast ?_ first.nodes found'
    simpa only [Nested.stepsOfOthers, List.cons_append, List.nil_append] using whole

end

/-- From the empty state the machine emits the steps of the whole tree. -/
theorem steps_processAll_query (query : Query) :
    (processAll context {} query.events).steps = query.steps context.settings.aggregate := by
  obtain ⟨root, hops, limit⟩ := query
  let started := process context (process context {} .queryEnter) .startEnter
  have path : started.nodes = [] := rfl
  have first := root.passed context (some root.filterKeys)
    (entered_as_root context root.label path rfl)
  have hopped := Hop.passedList context hops first.nodes first.pendingLabels
  let ended := processAll context (processAll context started (root.events (some root.filterKeys)))
    (Hop.eventsOfList hops)
  have body : ended.steps = _ := (first.trans hopped).steps
  have limited (state : State) : (processAll context state (limitEvents limit)).steps =
      state.steps ++ limitSteps limit := by
    cases limit with
    | none => exact (List.append_nil _).symm
    | some count => exact steps_emit _ state
  have closed (state : State) : (processAll context state [.startExit, .queryExit]).steps =
      state.steps ++ [.collect context.settings.aggregate] := steps_emit _ state
  rw [Query.events, processAll_cons, processAll_cons, processAll_append, processAll_append,
    processAll_append, closed, limited]
  change ended.steps ++ _ ++ _ = _
  rw [body, show started.steps = [.start] from rfl]
  simp only [Query.steps, List.cons_append, List.nil_append, List.append_assoc]

/-- Whatever text is accepted, and whatever the settings and the schema, the steps emitted for its
stream are those of its tree. -/
theorem parsed_stream_emits_tree_steps (text : String) (events : List Event)
    (accepted : parseEvents text = .ok events) :
    ∃ query : Query, Query.parse text.toList = .ok query ∧ query.events = events ∧
      ∀ context : Context,
        (processAll context {} events).steps = query.steps context.settings.aggregate := by
  obtain ⟨query, parsed, rfl⟩ := parse_of_parseEvents accepted
  exact ⟨query, parsed, rfl, fun context => steps_processAll_query context query⟩

theorem nested_union_emits_tree_steps :
    let events : List Event := [.queryEnter, .startEnter, .vertexEnter "a", .whereEnter true,
      .nestedEnter, .edgeFilter ["m"], .vertexEnter "b", .vertexExit false none, .unionEnter,
      .nestedEnter, .vertexEnter "c",
      .propertyFilter ⟨"k", false, ["s"], ["1"], ["True"]⟩, .vertexExit true none,
      .nestedExit 1, .comma, .nestedEnter, .vertexEnter "d", .vertexExit false none, .vertexEnter "e",
      .vertexExit false none, .nestedExit 2, .unionExit false, .nestedExit 2, .whereExit true,
      .vertexExit false (some []), .limit 5, .startExit, .queryExit]
    parseEvents "a !(> ('m') b > [c*('k', 1, 's', True), d > e]) LIMIT 5" = .ok events ∧
      ∃ query : Query, query.events = events ∧ ∀ context : Context,
        (processAll context {} events).steps = query.steps context.settings.aggregate := by
  intro events
  have accepted : parseEvents "a !(> ('m') b > [c*('k', 1, 's', True), d > e]) LIMIT 5" =
      .ok events := by cbv
  obtain ⟨query, -, stream, steps⟩ := parsed_stream_emits_tree_steps _ events accepted
  exact ⟨accepted, query, stream, steps⟩

end Traversal
