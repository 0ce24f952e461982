import Traversal.Proofs.Translation
import Traversal.Query.Vertices

/-! What the parts of a query leave of their surroundings. A part may be processed in any state, even
in one that no stream leads to: whatever lies on the stacks, it lies there again behind the part, but
for the result of the part, and the counts grow by the vertices of the part and by nothing else. -/
namespace Traversal
open Compiler Compiler.State

/-- A part of a stream with some vertices has kept to itself. It has left a path and lists of results,
and every vertex that it opened is closed. Each of its vertices has been counted, and each has been
entered by an edge, unless the first of them had none to come from. -/
structure Confined (vertices : List String) (before after : State) (nodes : List String)
    (results : List (List String)) : Prop where
  nodes : after.nodes = nodes
  results : after.results = results
  openVertices : after.openVertices = before.openVertices
  count : after.nodeCount = before.nodeCount + vertices.length
  log : before.nodes ≠ [] →
    ∃ edges, after.edgeLog = before.edgeLog ++ edges ∧ edges.map Prod.snd = vertices

namespace Confined

variable {first second vertices : List String} {before middle after : State}
  {nodes nodes' : List String} {results results' : List (List String)}

/-- Two parts one after the other, of which the first leaves a path if it finds one. -/
theorem trans (left : Confined first before middle nodes' results')
    (right : Confined second middle after nodes results) (path : before.nodes ≠ [] → nodes' ≠ []) :
    Confined (first ++ second) before after nodes results where
  nodes := right.nodes
  results := right.results
  openVertices := right.openVertices.trans left.openVertices
  count := by rw [right.count, left.count, List.length_append, Nat.add_assoc]
  log := fun found => by
    obtain ⟨edges, log, targets⟩ := left.log found
    obtain ⟨edges', log', targets'⟩ := right.log (left.nodes ▸ path found)
    refine ⟨edges ++ edges', ?_, ?_⟩
    · rw [log', log, List.append_assoc]
    · rw [List.map_append, targets, targets']

/-- A part behind an event that opens it and changes at most the lists of results. -/
theorem opened (before : State) {opening : State}
    (confined : Confined vertices opening after nodes results) (path : opening.nodes = before.nodes)
    (open' : opening.openVertices = before.openVertices)
    (count : opening.nodeCount = before.nodeCount) (log : opening.edgeLog = before.edgeLog) :
    Confined vertices before after nodes results where
  nodes := confined.nodes
  results := confined.results
  openVertices := confined.openVertices.trans open'
  count := by rw [confined.count, count]
  log := fun found => log ▸ confined.log (path ▸ found)

/-- A part in front of an event that closes it and changes at most the path and the results. -/
theorem closed {closing : State} (confined : Confined vertices before closing nodes' results')
    (path : after.nodes = nodes) (found : after.results = results)
    (open' : after.openVertices = closing.openVertices) (count : after.nodeCount = closing.nodeCount)
    (log : after.edgeLog = closing.edgeLog) : Confined vertices before after nodes results where
  nodes := path
  results := found
  openVertices := open'.trans confined.openVertices
  count := count.trans confined.count
  log := fun reached => log ▸ confined.log reached

/-- The path and the results may be written in another way. -/
theorem cast (confined : Confined vertices before after nodes results) (path : nodes = nodes')
    (found : results = results') : Confined vertices before after nodes' results' :=
  path ▸ found ▸ confined

/-- Nothing happens. -/
theorem refl (state : State) : Confined [] state state state.nodes state.results :=
  ⟨rfl, rfl, rfl, rfl, fun _ => ⟨[], (List.append_nil _).symm, rfl⟩⟩

end Confined

variable (context : Context)

/-- A filter adds a step at most. -/
theorem confined_applyFilter (filter : FilterEvent) (state : State) :
    Confined [] state (state.applyFilter filter) state.nodes state.results := by
  unfold applyFilter
  cases state.current <;> exact (Confined.refl state).closed rfl rfl rfl rfl rfl

/-- What entering a vertex does to the stacks and to the books. -/
theorem enterVertex_books (label : String) (state : State) :
    let entered := state.enterVertex context label
    entered.nodes = label :: state.nodes ∧ entered.results = state.results ∧
      entered.openVertices = label :: state.openVertices ∧ entered.nodeCount = state.nodeCount ∧
      (state.nodes ≠ [] → ∃ source, entered.edgeLog = state.edgeLog ++ [(source, label)]) := by
  intro entered
  simp only [entered, enterVertex]
  cases current : state.current with
  | none =>
    refine ⟨rfl, rfl, rfl, rfl, fun path => absurd ?_ path⟩
    exact List.head?_eq_none_iff.mp current
  | some source => exact ⟨rfl, rfl, rfl, rfl, fun _ => ⟨source, rfl⟩⟩

mutual

/-- A clause leaves the path and the results as they were. -/
theorem Clause.confined : ∀ (clause : Clause) (state : State),
    Confined clause.vertices state (processAll context state clause.events) state.nodes state.results
  | .filter test, state => confined_applyFilter test.event state
  | .block negated inner, state => by
    let opened := process context state (.whereEnter negated)
    have statement := (inner.confined opened).opened state rfl rfl rfl rfl
    rw [Clause.events, processAll_cons, processAll_append, processAll_cons, processAll_nil]
    exact statement.closed statement.nodes (congrArg List.tail statement.results) rfl rfl rfl

/-- Clauses leave the path and the results as they were. -/
theorem Clause.confinedList : ∀ (clauses : List Clause) (state : State),
    Confined (Clause.verticesOfList clauses) state
      (processAll context state (Clause.eventsOfList clauses)) state.nodes state.results
  | [], state => Confined.refl state
  | clause :: rest, state => by
    have first := clause.confined state
    have others := Clause.confinedList rest (processAll context state clause.events)
    rw [Clause.eventsOfList, processAll_append]
    exact first.trans (others.cast first.nodes first.results) id

/-- A vertex becomes the end of the path. -/
theorem Vertex.confined : ∀ (vertex : Vertex) (keys : Option (List String)) (state : State),
    Confined vertex.vertices state (processAll context state (vertex.events keys))
      (vertex.label :: state.nodes) state.results
  | .mk label clauses stored, keys, state => by
    let entered := state.enterVertex context label
    obtain ⟨path, found, opened, counted, followed⟩ := enterVertex_books context label state
    have inner := Clause.confinedList clauses entered
    rw [Vertex.events, processAll_cons, processAll_append, processAll_cons, processAll_nil]
    let ended := processAll context entered (Clause.eventsOfList clauses)
    change Confined _ state (ended.exitVertex context stored keys) _ _
    have count : ended.nodeCount = state.nodeCount + (Clause.verticesOfList clauses).length :=
      inner.count.trans (congrArg (· + _) counted)
    refine ⟨inner.nodes.trans path, inner.results.trans found, ?_, congrArg (· + 1) count, ?_⟩
    · exact congrArg List.tail (inner.openVertices.trans opened)
    · intro reached
      obtain ⟨source, log⟩ := followed reached
      obtain ⟨edges, log', targets⟩ := inner.log (path ▸ List.cons_ne_nil _ _)
      refine ⟨(source, label) :: edges, ?_, congrArg (label :: ·) targets⟩
      change ended.edgeLog = _
      rw [log', log, List.append_assoc]
      rfl

/-- The place where a hop leads adds one vertex type to the path, that of its result. -/
theorem Target.confined : ∀ (target : Target) (state : State),
    Confined target.vertices state (processAll context state target.events)
      (target.result :: state.nodes) state.results
  | .vertex vertex, state => vertex.confined none state
  | .union first others stored, state => by
    let opened := process context state .unionEnter
    have member := first.confined opened
    let passed := processAll context opened first.events
    have results : passed.results = [first.result] :: state.results := member.results
    have behind := Nested.confinedOthers others passed results
    have members := (member.trans (behind.cast member.nodes rfl) id).opened state rfl rfl rfl rfl
    rw [Target.events, processAll_cons, processAll_append, processAll_append, processAll_cons,
      processAll_nil]
    have path := nodes_exitUnion stored members.results
    exact members.closed (path.trans (congrArg (first.result :: ·) members.nodes))
      (congrArg List.tail members.results) rfl rfl rfl

/-- A hop adds one vertex type to the path. -/
theorem Hop.confined : ∀ (hop : Hop) (state : State),
    Confined hop.vertices state (processAll context state hop.events) (hop.result :: state.nodes)
      state.results
  | .mk labels target, state => by
    have reached := target.confined
      { state with pendingLabels := chosenLabels labels state.pendingLabels }
    rw [Hop.events, processAll_append, pendingLabels_labelEvents]
    exact reached.opened state rfl rfl rfl rfl

/-- Hops add one vertex type each. -/
theorem Hop.confinedList : ∀ (hops : List Hop) (state : State),
    Confined (Hop.verticesOfList hops) state (processAll context state (Hop.eventsOfList hops))
      (Hop.trail hops ++ state.nodes) state.results
  | [], state => Confined.refl state
  | hop :: rest, state => by
    have first := hop.confined state
    have others := Hop.confinedList rest (processAll context state hop.events)
    rw [Hop.eventsOfList, processAll_append]
    have path : Hop.trail rest ++ (processAll context state hop.events).nodes =
        Hop.trail (hop :: rest) ++ state.nodes := by
      rw [first.nodes, Hop.trail, List.append_assoc]
      rfl
    exact first.trans (others.cast path first.results) fun _ => List.cons_ne_nil _ _

/-- A nested statement leaves the path as it was and hands its result to the open list, if there is
one. -/
theorem Nested.confined : ∀ (statement : Nested) (state : State),
    Confined statement.vertices state (processAll context state statement.events) state.nodes
      (collect statement.result state.results)
  | .mk labels head hops, state => by
    let opened := process context state .nestedEnter
    let labelled := { opened with pendingLabels := chosenLabels labels state.pendingLabels }
    have first := head.confined none labelled
    have rest := Hop.confinedList hops (processAll context labelled (head.events none))
    have body := (first.trans rest fun _ => List.cons_ne_nil _ _).opened state rfl rfl rfl rfl
    rw [Nested.events, processAll_cons, processAll_append, processAll_append, processAll_append,
      pendingLabels_labelEvents, processAll_cons, processAll_nil]
    let ended := processAll context (processAll context labelled (head.events none))
      (Hop.eventsOfList hops)
    have visited : ended.nodes = (Hop.trail hops ++ [head.label]) ++ state.nodes := by
      rw [show ended.nodes = _ from body.nodes, first.nodes, List.append_assoc]
      rfl
    have last : ended.nodes.head? = some (Hop.resultOfList head.label hops) := by
      rw [visited, List.append_assoc]
      exact Hop.head?_trail head.label state.nodes hops
    have count : 1 + hops.length = (Hop.trail hops ++ [head.label]).length := by
      rw [List.length_append, Hop.length_trail, Nat.add_comm]
      rfl
    change Confined _ state (ended.exitNested (1 + hops.length)) _ _
    rw [count, exitNested_of_path visited last]
    exact body.closed rfl (congrArg (collect _) (body.results.trans first.results)) rfl rfl rfl

/-- The members of a union behind the first hand over their results in turn. -/
theorem Nested.confinedOthers : ∀ (others : List Nested) (state : State) {found : List String}
    {outer : List (List String)}, state.results = found :: outer →
    Confined (Nested.verticesOfList others) state
      (processAll context state (Nested.eventsOfOthers others)) state.nodes
      ((found ++ others.map Nested.result) :: outer)
  | [], state, found, outer, earlier =>
    (Confined.refl state).cast rfl (by rw [earlier, List.map_nil, List.append_nil])
  | member :: rest, state, found, outer, earlier => by
    let separated := process context state .comma
    have first := member.confined separated
    have results : (processAll context separated member.events).results =
        (found ++ [member.result]) :: outer := by
      rw [first.results, show separated.results = _ from earlier]
      rfl
    have others := Nested.confinedOthers rest _ results
    rw [Nested.eventsOfOthers, processAll_cons, processAll_append]
    have whole := (first.trans (others.cast first.nodes rfl) id).opened state rfl rfl rfl rfl
    refine whole.cast rfl ?_
    rw [List.append_assoc]
    rfl

end

/-- From any state, a nested statement, a block and a union leave their surroundings as they found
them. A nested statement adds its result, the type at which its last step ends, to the innermost list
of results, if one is open, and changes nothing else on the stacks; a block changes nothing; a union
adds one type to the path, the result of its first member, whatever the other members are. Every vertex
inside counts once, and each is entered by one edge, in written order, if the part did not find the path
empty. -/
theorem nested_parts_keep_to_themselves (state : State) :
    (∀ statement : Nested, ∃ results,
      Confined statement.vertices state (processAll context state statement.events) state.nodes
        results ∧
      (state.results = [] → results = []) ∧
      ∀ found outer, state.results = found :: outer →
        results = (found ++ [statement.result]) :: outer) ∧
      (∀ negated inner, Confined inner.vertices state
        (processAll context state (Clause.block negated inner).events) state.nodes state.results) ∧
      ∀ first others stored, Confined (first.vertices ++ Nested.verticesOfList others) state
        (processAll context state (Target.union first others stored).events)
        (first.result :: state.nodes) state.results := by
  refine ⟨fun statement => ⟨_, statement.confined context state, ?_, ?_⟩, fun negated inner => ?_,
    fun first others stored => ?_⟩
  · intro none
    rw [none]
    rfl
  · intro found outer open'
    rw [open']
    rfl
  · exact (Clause.block negated inner).confined context state
  · exact (Target.union first others stored).confined context state

/-- In a state without scopes, where a result waits and a vertex is open that is not on the path, the
members of a union have the same effect as anywhere else. -/
theorem members_in_a_stray_state_keep_to_themselves :
    let state : State :=
      { nodes := ["z"], results := [["q"], []], edgeLog := [("p", "q")], nodeCount := 7,
        pendingLabels := ["m"], openVertices := ["w", "z"] }
    let member : Nested := .mk [] (.mk "b" [.block true (.mk [] (.mk "e" [] true) [])] false)
      [.mk ["l"] (.vertex (.mk "c" [] false))]
    let other : Nested := .mk [] (.mk "d" [] true) []
    (∀ context : Context,
      let after := processAll context state member.events
      after.nodes = ["z"] ∧ after.results = [["q", "c"], []] ∧ after.openVertices = ["w", "z"] ∧
        after.nodeCount = 10 ∧
        ∃ edges, after.edgeLog = ("p", "q") :: edges ∧ edges.map Prod.snd = ["b", "e", "c"]) ∧
      ∀ context : Context,
        let after := processAll context state (Target.union member [other] false).events
        after.nodes = ["c", "z"] ∧ after.results = [["q"], []] ∧ after.nodeCount = 11 := by
  intro state member other
  refine ⟨fun context => ?_, fun context => ?_⟩
  · obtain ⟨results, confined, -, collected⟩ :=
      (nested_parts_keep_to_themselves context state).1 member
    exact ⟨confined.nodes, confined.results.trans (collected ["q"] [[]] rfl), confined.openVertices,
      confined.count, confined.log (List.cons_ne_nil _ _)⟩
  · have confined := (nested_parts_keep_to_themselves context state).2.2 member [other] false
    exact ⟨confined.nodes, confined.results, confined.count⟩

end Traversal
