import Traversal.Proofs.Arrangement
import Traversal.Proofs.Bookkeeping
import Traversal.Proofs.Stacks
import Traversal.Query.Vertices

/-! How many vertices and edges an accepted query has. Vertices are counted where they are left, edges
where a vertex is entered that is not the first, and vertices are open inside one another; so along
the stream the two counts drift apart by what is open. One vertex, the root, is entered without an
edge, and that is all the difference in the end. -/
namespace Traversal
open Compiler Compiler.State

/-- Whether a part is a vertex. -/
def OpenPart.isVertex : OpenPart → Bool
  | .vertex _ => true
  | _ => false

/-! ## The vertices of a tree -/

theorem entered_labelEvents (labels : List String) :
    (labelEvents labels).filterMap Event.entered? = [] := by
  cases labels <;> rfl

mutual

theorem Clause.entered_events : ∀ clause : Clause,
    clause.events.filterMap Event.entered? = clause.vertices
  | .filter test => rfl
  | .block negated inner => by
    have statement := inner.entered_events
    simp [Clause.events, Clause.vertices, List.filterMap_cons, Event.entered?, statement]

theorem Clause.entered_eventsOfList : ∀ clauses : List Clause,
    (Clause.eventsOfList clauses).filterMap Event.entered? = Clause.verticesOfList clauses
  | [] => rfl
  | clause :: rest => by
    rw [Clause.eventsOfList, List.filterMap_append, clause.entered_events,
      Clause.entered_eventsOfList rest, Clause.verticesOfList]

theorem Vertex.entered_events : ∀ (vertex : Vertex) (keys : Option (List String)),
    (vertex.events keys).filterMap Event.entered? = vertex.vertices
  | .mk label clauses stored, keys => by
    have inner := Clause.entered_eventsOfList clauses
    simp [Vertex.events, Vertex.vertices, Event.entered?, inner]

theorem Target.entered_events : ∀ target : Target,
    target.events.filterMap Event.entered? = target.vertices
  | .vertex vertex => vertex.entered_events none
  | .union first others stored => by
    have head := first.entered_events
    have tail := Nested.entered_eventsOfOthers others
    simp [Target.events, Target.vertices, List.filterMap_cons, Event.entered?, head, tail]

theorem Hop.entered_events : ∀ hop : Hop, hop.events.filterMap Event.entered? = hop.vertices
  | .mk labels target => by
    rw [Hop.events, List.filterMap_append, entered_labelEvents, target.entered_events,
      List.nil_append, Hop.vertices]

theorem Hop.entered_eventsOfList : ∀ hops : List Hop,
    (Hop.eventsOfList hops).filterMap Event.entered? = Hop.verticesOfList hops
  | [] => rfl
  | hop :: rest => by
    rw [Hop.eventsOfList, List.filterMap_append, hop.entered_events,
      Hop.entered_eventsOfList rest, Hop.verticesOfList]

theorem Nested.entered_events : ∀ statement : Nested,
    statement.events.filterMap Event.entered? = statement.vertices
  | .mk labels head hops => by
    have first := head.entered_events none
    have steps := Hop.entered_eventsOfList hops
    simp [Nested.events, Nested.vertices, List.filterMap_cons, Event.entered?, entered_labelEvents,
      first, steps]

theorem Nested.entered_eventsOfOthers : ∀ others : List Nested,
    (Nested.eventsOfOthers others).filterMap Event.entered? = Nested.verticesOfList others
  | [] => rfl
  | member :: rest => by
    have first := member.entered_events
    have others := Nested.entered_eventsOfOthers rest
    simp [Nested.eventsOfOthers, Nested.verticesOfList, List.filterMap_cons, Event.entered?, first,
      others]

end

/-- The stream of a tree enters its vertices, in written order. -/
theorem Query.entered_events (query : Query) :
    query.events.filterMap Event.entered? = query.vertices := by
  have root := query.root.entered_events (some query.root.filterKeys)
  have hops := Hop.entered_eventsOfList query.hops
  have limit : (limitEvents query.limit).filterMap Event.entered? = [] := by
    cases query.limit <;> rfl
  simp [Query.events, Query.vertices, List.filterMap_cons, Event.entered?, root, hops, limit]

/-! ## Roots -/

/-- Whether the root lies behind a stage. -/
def Stage.isRooted : Stage → Bool
  | .beginning | .root => false
  | .statement _ | .departure _ | .body _ _ | .ending => true

/-- Behind the root no step enters another. -/
theorem not_root_of_path {aggregate : Bool} {stage last : Stage} {steps : List Step}
    (path : Path (Goes aggregate) stage steps last) (rooted : stage.isRooted = true)
    (label : String) : .nodeType label ∉ steps := by
  induction steps generalizing stage with
  | nil => exact List.not_mem_nil
  | cons step rest ih =>
    obtain ⟨next, goes, path⟩ := path
    have others : next.isRooted = true → .nodeType label ∉ rest := ih path
    cases goes with
    | start | nodeType => cases rooted
    | _ => simp [others rfl]

/-- The steps of a well-formed tree enter one root, with the second of them. -/
theorem Query.exists_steps {query : Query} (formed : query.WellFormed) (aggregate : Bool) :
    ∃ rest, query.steps aggregate = .start :: .nodeType query.root.label :: rest ∧
      ∀ label, .nodeType label ∉ rest := by
  refine ⟨_, rfl, fun label => ?_⟩
  obtain ⟨_, first, _, second, path⟩ := goes_steps aggregate formed
  cases first
  cases second
  exact not_root_of_path path rfl label

/-- Without a root, the steps that enter vertices are those that follow edges. -/
theorem countP_entered_of_no_root {steps : List Step} (none : ∀ label, .nodeType label ∉ steps) :
    steps.countP (·.entered?.isSome) = (Step.edges steps).length := by
  rw [Step.edges, List.length_filterMap_eq_countP]
  apply List.countP_congr
  intro step member
  cases step with
  | nodeType label => exact absurd member (none label)
  | _ => rfl

/-! ## Open vertices -/

variable (context : Context)

/-- There is an open vertex for every part that is one. -/
theorem Mirrors.length_vertices {frames : List Frame} {parts : List OpenPart}
    {nodes vertices : List String} {results : List (List String)}
    (mirrors : Mirrors frames parts nodes results vertices) :
    vertices.length = parts.countP OpenPart.isVertex := by
  induction mirrors with
  | closed | query _ | start _ => rfl
  | nested around enter counted ih | union around counted ended ih | block around ih =>
    exact ih.trans (List.countP_cons_of_neg Bool.false_ne_true).symm
  | vertex around ih => rw [List.length_cons, ih, List.countP_cons_of_pos rfl]

/-- An event that meets what it has to find opens the vertex that it enters and closes the one that it
leaves. -/
theorem openVertices_process {parts : List OpenPart} {state : State} {event : Event}
    (meets : Meets context parts state event) :
    (process context state event).openVertices.length + (if event.leavesVertex then 1 else 0) =
      state.openVertices.length + if event.entered?.isSome then 1 else 0 := by
  cases event with
  | vertexEnter label =>
    obtain ⟨-, -, vertices⟩ := enterVertex_stacks context label state
    rw [process, vertices]
    rfl
  | vertexExit stored keys =>
    obtain ⟨label, -, opened⟩ := meets
    obtain ⟨others, vertices⟩ := List.head?_eq_some_iff.mp opened
    change state.openVertices.tail.length + 1 = state.openVertices.length
    rw [vertices]
    rfl
  | propertyFilter filter =>
    unfold process applyFilter
    cases state.current <;> rfl
  | nestedExit count =>
    rw [process, exitNested_eq]
    rfl
  | _ => rfl

/-- Along a stream that keeps the rules, every vertex that has been entered is open or has been left.
-/
theorem openVertices_front {front : List Event} {frames : List Frame}
    (path : Path Advance [.outside false] front frames) :
    (processAll context {} front).openVertices.length + front.countP Event.leavesVertex =
      front.countP (·.entered?.isSome) := by
  -- The rules say what the last event finds, so the stream is taken apart from behind.
  induction front using List.reverseRecOn generalizing frames with
  | nil => rfl
  | append_singleton front event ih =>
    obtain ⟨middle, path, next, advance, -⟩ := path.of_append
    have meets : Meets context (openIn front) (processAll context {} front) event := by
      obtain ⟨rfl, rfl⟩ | ⟨-, mirrors⟩ := mirrors_front context path
      · cases advance
        exact ⟨rfl, rfl⟩
      · exact (mirrors_process context advance mirrors).1
    have one := openVertices_process context meets
    have before := ih path
    rw [processAll_append, processAll_cons, processAll_nil, List.countP_append,
      List.countP_append, List.countP_singleton, List.countP_singleton]
    omega

/-! ## An accepted text -/

theorem Mirrors.behind_query {parts : List OpenPart} {nodes vertices : List String}
    {results : List (List String)} (mirrors : Mirrors [.outside true] parts nodes results vertices) :
    vertices = [] := by
  cases mirrors
  rfl

/-- Steps that enter a vertex and begin like those of a query have entered its root. -/
theorem root_of_prefix {steps rest : List Step} {root : String}
    (begins : steps <+: .start :: .nodeType root :: rest)
    (enters : 0 < steps.countP (·.entered?.isSome)) :
    ∃ behind, steps = .start :: .nodeType root :: behind ∧ behind <+: rest := by
  cases steps with
  | nil => exact absurd enters (Nat.lt_irrefl 0)
  | cons first others =>
    obtain ⟨rfl, follows⟩ := List.cons_prefix_cons.mp begins
    cases others with
    | nil => exact absurd enters (Nat.lt_irrefl 0)
    | cons second behind =>
      obtain ⟨rfl, behind'⟩ := List.cons_prefix_cons.mp follows
      exact ⟨behind, rfl, behind'⟩

/-- A vertex is entered by an edge unless it is the root. -/
theorem edgeLog_front {query : Query} (formed : query.WellFormed) {front : List Event}
    (begins : front <+: query.events) (enters : 0 < front.countP (·.entered?.isSome)) :
    let state := processAll context {} front
    state.edgeLog.length + 1 = front.countP (·.entered?.isSome) ∧
      ∃ rest, state.steps = .start :: .nodeType query.root.label :: rest ∧
        ∀ label, .nodeType label ∉ rest := by
  intro state
  have tallies : Tallies front state := tallies_processAll context front
  obtain ⟨rest, steps, none⟩ := Query.exists_steps formed context.settings.aggregate
  have grows : state.steps <+: .start :: .nodeType query.root.label :: rest := by
    obtain ⟨back, split⟩ := begins
    rw [← steps, ← steps_processAll_query, ← split, processAll_append,
      steps_processAll context state back]
    exact List.prefix_append _ _
  rw [← tallies.countP_entered] at enters
  obtain ⟨behind, same, begins⟩ := root_of_prefix grows enters
  have none (label : String) : .nodeType label ∉ behind := fun member =>
    none label (begins.subset member)
  refine ⟨?_, behind, same, none⟩
  rw [tallies.log, ← tallies.countP_entered, same, List.countP_cons_of_neg Bool.false_ne_true,
    List.countP_cons_of_pos rfl, countP_entered_of_no_root none]
  rfl

/-- At the end of the query no vertex is open, so that as many have been left as are written. -/
theorem countP_leavesVertex {query : Query} (formed : query.WellFormed) :
    query.events.countP Event.leavesVertex = query.vertices.length := by
  have path : Path Advance [.outside false] query.events [.outside true] := orderly_events formed
  let last := processAll ⟨{}, none⟩ {} query.events
  have closed : last.openVertices = [] := by
    obtain ⟨-, outside⟩ | ⟨-, mirrors⟩ := mirrors_front ⟨{}, none⟩ path
    · cases outside
    · exact mirrors.behind_query
  have left : last.openVertices.length + query.events.countP Event.leavesVertex =
      query.events.countP (·.entered?.isSome) := openVertices_front ⟨{}, none⟩ path
  rw [closed, List.length_nil, Nat.zero_add] at left
  rw [left, ← List.length_filterMap_eq_countP, query.entered_events]

/-- A compiled query has visited the vertices of its tree. -/
theorem counts_of_compiled {query : Query} (formed : query.WellFormed) {settings : Settings}
    {view : Option SchemaView} {result : CompiledQuery}
    (compiled : compileEvents settings view query.events = .ok result) :
    let steps := (processAll ⟨settings, view⟩ {} query.events).steps
    result.edgeCount + 1 = result.nodeCount ∧ result.nodeCount = query.vertices.length ∧
      result.query = Step.textOfList steps ∧ (settings.rules.nodeCountCheck = true →
        steps.countP (·.entered?.isSome) ≤ settings.maxNodeCount) := by
  intro steps
  let context : Context := ⟨settings, view⟩
  have tallies : Tallies query.events (processAll context {} query.events) :=
    tallies_processAll context query.events
  have left := countP_leavesVertex formed
  have entered : query.events.countP (·.entered?.isSome) = query.vertices.length := by
    rw [← List.length_filterMap_eq_countP, query.entered_events]
  have some : 0 < query.vertices.length := by
    rw [Query.vertices, List.length_append]
    cases query.root
    exact Nat.lt_add_right _ (Nat.zero_lt_succ _)
  obtain ⟨edges, -⟩ := edgeLog_front context formed (List.prefix_refl _) (entered ▸ some)
  rw [compileEvents_eq, verdictOf_eq_ok_iff] at compiled
  obtain ⟨-, -, kept, rfl⟩ := compiled
  have followed : (processAll context {} query.events).edgeLog.length =
      steps.countP (·.ends?.isSome) := by
    rw [tallies.log, Step.edges, List.length_filterMap_eq_countP]
  refine ⟨?_, left, rfl, fun enabled => ?_⟩
  · change steps.countP (·.ends?.isSome) + 1 = query.events.countP Event.leavesVertex
    rw [← followed, edges, entered, left]
  · have passed := List.filter_eq_nil_iff.mp kept (.nodeCount _ _)
      (List.mem_cons_of_mem _ List.mem_cons_self)
    simp only [RuleSet.refuses, enabled, Bool.true_and, decide_eq_true_eq, Nat.not_lt] at passed
    change steps.countP (·.entered?.isSome) ≤ settings.maxNodeCount
    have visited : steps.countP (·.entered?.isSome) = query.events.countP (·.entered?.isSome) :=
      tallies.countP_entered
    rwa [visited, entered, ← left]

/-- An accepted query has one root and one edge for every other vertex, at every moment. From the
event on that enters its first vertex, the edges followed are one fewer than the vertices entered,
which are those that have been left and those that are still open; and the root is entered by the
second step and by no other. So a compiled query has visited the vertices that are written in the text
and followed one edge fewer, and if the rule on the node count is enabled, it has no more steps that
enter a vertex than the ceiling. -/
theorem accepted_query_has_one_root (text : String) (events : List Event)
    (accepted : parseEvents text = .ok events) :
    ∃ query : Query, Query.parse text.toList = .ok query ∧ query.events = events ∧
      (∀ context front, front <+: events → (∃ label, .vertexEnter label ∈ front) →
        let state := processAll context {} front
        state.edgeLog.length + 1 = state.nodeCount + state.openVertices.length ∧
          state.nodeCount + state.openVertices.length = front.countP (·.entered?.isSome) ∧
          state.openVertices.length = (openIn front).countP OpenPart.isVertex ∧
          ∃ rest, state.steps = .start :: .nodeType query.root.label :: rest ∧
            ∀ label, .nodeType label ∉ rest) ∧
      ∀ settings view result, compile settings view text = .ok result →
        let steps := (processAll ⟨settings, view⟩ {} events).steps
        result.edgeCount + 1 = result.nodeCount ∧ result.nodeCount = query.vertices.length ∧
          result.query = Step.textOfList steps ∧ (settings.rules.nodeCountCheck = true →
            steps.countP (·.entered?.isSome) ≤ settings.maxNodeCount) := by
  obtain ⟨query, parsed, rfl⟩ := parse_of_parseEvents accepted
  have formed : query.WellFormed := query.exists_spelling.mpr ⟨_, Grammar.spelled_of_parse parsed⟩
  refine ⟨query, parsed, rfl, fun context front begins enters => ?_,
    fun settings view result compiled => ?_⟩
  · intro state
    obtain ⟨label, member⟩ := enters
    have enters : 0 < front.countP (·.entered?.isSome) :=
      List.countP_pos_iff.mpr ⟨_, member, rfl⟩
    have edges : state.edgeLog.length + 1 = front.countP (·.entered?.isSome) :=
      (edgeLog_front context formed begins enters).1
    have count : state.nodeCount = front.countP Event.leavesVertex :=
      (tallies_processAll context front).count
    obtain ⟨frames, path⟩ : ∃ frames, Path Advance [.outside false] front frames := by
      obtain ⟨back, split⟩ := begins
      have whole : Orderly (front ++ back) := split ▸ orderly_events formed
      obtain ⟨frames, path, -⟩ := Path.of_append whole
      exact ⟨frames, path⟩
    have opened : state.openVertices.length + front.countP Event.leavesVertex =
        front.countP (·.entered?.isSome) := openVertices_front context path
    have vertices : state.openVertices.length = (openIn front).countP OpenPart.isVertex := by
      obtain ⟨rfl, -⟩ | ⟨-, mirrors⟩ := mirrors_front context path
      · rfl
      · exact mirrors.length_vertices
    have root := (edgeLog_front context formed begins enters).2
    refine ⟨?_, ?_, vertices, root⟩
    · omega
    · omega
  · have same : compile settings view text = compileEvents settings view query.events := by
      unfold compile
      rw [accepted]
    rw [same] at compiled
    exact counts_of_compiled formed compiled

/-- Inside the union in the block three vertices have been entered, two by edges, and two are open. -/
theorem query_with_block_and_union_has_one_root :
    let text := "a !(> b > [c*, d > e]) > f"
    let front : List Event := [.queryEnter, .startEnter, .vertexEnter "a", .whereEnter true,
      .nestedEnter, .vertexEnter "b", .vertexExit false none, .unionEnter, .nestedEnter,
      .vertexEnter "c"]
    let back : List Event := [.vertexExit true none, .nestedExit 1, .comma, .nestedEnter,
      .vertexEnter "d", .vertexExit false none, .vertexEnter "e", .vertexExit false none,
      .nestedExit 2, .unionExit false, .nestedExit 2, .whereExit true, .vertexExit false (some []),
      .vertexEnter "f", .vertexExit false none, .startExit, .queryExit]
    let settings : Settings := { maxNodeCount := 6 }
    parseEvents text = .ok (front ++ back) ∧
      (∀ context : Context,
        let state := processAll context {} front
        state.edgeLog.length + 1 = 3 ∧ state.openVertices.length = 2) ∧
      ∃ query result, Query.parse text.toList = .ok query ∧
        compile settings none text = .ok result ∧ result.edgeCount + 1 = result.nodeCount ∧
        result.nodeCount = query.vertices.length := by
  intro text front back settings
  have accepted : parseEvents text = .ok (front ++ back) := by cbv
  obtain ⟨query, parsed, -, fronts, compiles⟩ :=
    accepted_query_has_one_root text (front ++ back) accepted
  have compiled : compile settings none text = .ok ⟨Step.textOfList
      (processAll ⟨settings, none⟩ {} (front ++ back)).steps, false, 6, 5⟩ := by
    unfold compile
    rw [accepted]
    change compileEvents settings none (front ++ back) = _
    rw [compileEvents_eq, verdictOf_eq_ok_iff]
    exact ⟨by decide, by decide, by decide, rfl⟩
  obtain ⟨edges, vertices, -⟩ := compiles settings none _ compiled
  refine ⟨accepted, fun context => ?_, query, _, parsed, compiled, edges, vertices⟩
  obtain ⟨edges, entered, opened, -⟩ :=
    fronts context front (List.prefix_append _ _) ⟨"a", by decide⟩
  exact ⟨edges.trans entered, opened⟩

end Traversal
