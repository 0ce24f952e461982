import Traversal.Proofs.Surroundings

/-! What remains on the stacks behind a query. Nested statements take off the path all that they put
there, and unions and blocks close their lists of results; the start statement takes off one place,
however many hops it has. So the results are gone behind every query, and the path is gone only behind
a query without hops. -/
namespace Traversal
open Compiler Compiler.State

variable (context : Context)

/-- What hops leave on the path are their results. -/
theorem Hop.trail_eq (hops : List Hop) : Hop.trail hops = (hops.map Hop.result).reverse := by
  induction hops with
  | nil => rfl
  | cons hop rest ih => rw [Hop.trail, ih, List.map_cons, List.reverse_cons]

/-- The start statement keeps to itself up to its limit: it puts its root on the path and one place
for each hop. -/
theorem confined_startStatement (root : Vertex) (hops : List Hop) (keys : Option (List String))
    (state : State) :
    Confined (root.vertices ++ Hop.verticesOfList hops) state
      (processAll context state (root.events keys ++ Hop.eventsOfList hops))
      (Hop.trail hops ++ root.label :: state.nodes) state.results := by
  have first := root.confined context keys state
  have rest := Hop.confinedList context hops (processAll context state (root.events keys))
  rw [processAll_append]
  refine first.trans (rest.cast ?_ first.results) fun _ => List.cons_ne_nil _ _
  rw [first.nodes]

/-- A limit touches nothing but the steps. -/
theorem confined_limitEvents (limit : Option Nat) (state : State) :
    Confined [] state (processAll context state (limitEvents limit)) state.nodes state.results := by
  cases limit with
  | none => exact Confined.refl state
  | some count => exact (Confined.refl state).closed rfl rfl rfl rfl rfl

/-- Behind a query no list of results and no vertex is open. The path holds the root and the result of
every hop, without the last of them. -/
theorem stacks_behind_query (query : Query) :
    let last := processAll context {} query.events
    last.results = [] ∧ last.openVertices = [] ∧
      last.nodes = (query.root.label :: query.hops.map Hop.result).dropLast.reverse := by
  intro last
  let started := process context (process context {} .queryEnter) .startEnter
  let keys := some query.root.filterKeys
  let body := processAll context started (query.root.events keys ++ Hop.eventsOfList query.hops)
  let limited := processAll context body (limitEvents query.limit)
  have statement : Confined _ started body _ _ :=
    confined_startStatement context query.root query.hops keys started
  have limit : Confined _ body limited _ _ := confined_limitEvents context query.limit body
  have ended : last = { limited.emit (.collect context.settings.aggregate) with
      nodes := limited.nodes.drop 1 } := by
    change processAll context started (_ ++ _ ++ _ ++ _) = _
    rw [processAll_append, processAll_append]
    rfl
  have path : limited.nodes = (query.root.label :: query.hops.map Hop.result).reverse := by
    rw [limit.nodes, statement.nodes, Hop.trail_eq, List.reverse_cons]
    rfl
  rw [ended]
  refine ⟨limit.results.trans statement.results,
    limit.openVertices.trans statement.openVertices, ?_⟩
  change limited.nodes.drop 1 = _
  rw [path, List.drop_one, List.tail_reverse]

/-- Behind the stream of an accepted text no list of results and no vertex is open. On the path there
remain the root and the results of the hops of the start statement, all but the last of them; so the
path is as long as the statement has hops, and it is empty again if and only if there are none. -/
theorem path_remains_behind_hops (text : String) (events : List Event)
    (accepted : parseEvents text = .ok events) :
    ∃ query : Query, Query.parse text.toList = .ok query ∧ query.events = events ∧
      ∀ context : Context,
        let last := processAll context {} events
        last.results = [] ∧ last.openVertices = [] ∧
          last.nodes = (query.root.label :: query.hops.map Hop.result).dropLast.reverse ∧
          last.nodes.length = query.hops.length ∧ (last.nodes = [] ↔ query.hops = []) := by
  obtain ⟨query, parsed, rfl⟩ := parse_of_parseEvents accepted
  refine ⟨query, parsed, rfl, fun context => ?_⟩
  intro last
  obtain ⟨results, vertices, path⟩ := stacks_behind_query context query
  have length : last.nodes.length = query.hops.length := by
    rw [show last.nodes = _ from path]
    simp
  refine ⟨results, vertices, path, length, ?_⟩
  rw [← List.length_eq_zero_iff, length, List.length_eq_zero_iff]

/-- Behind a query with a union and one more hop, the root and the result of the union remain. -/
theorem path_remains_behind_union_and_hop :
    let events : List Event := [.queryEnter, .startEnter, .vertexEnter "a", .vertexExit true (some []),
      .unionEnter, .nestedEnter, .vertexEnter "b", .vertexExit false none, .nestedExit 1, .comma,
      .nestedEnter, .vertexEnter "c", .vertexExit false none, .nestedExit 1, .unionExit false,
      .vertexEnter "d", .vertexExit false none, .startExit, .queryExit]
    parseEvents "a* > [b, c] > d" = .ok events ∧ ∀ context : Context,
      let last := processAll context {} events
      last.nodes = ["b", "a"] ∧ last.results = [] ∧ last.openVertices = [] := by
  intro events
  have accepted : parseEvents "a* > [b, c] > d" = .ok events := by cbv
  obtain ⟨query, -, stream, behind⟩ := path_remains_behind_hops _ events accepted
  refine ⟨accepted, fun context => ?_⟩
  obtain ⟨results, vertices, -⟩ := behind context
  exact ⟨rfl, results, vertices⟩

/-- Not every accepted text leaves the stacks empty behind its stream: the start statement of a query
with one hop takes off the end of its path, and the root remains. -/
theorem path_is_not_always_empty_behind_query :
    ¬ ∀ (text : String) (events : List Event), parseEvents text = .ok events →
      ∀ context : Context,
        let last := processAll context {} events
        last.nodes = [] ∧ last.results = [] := by
  intro claimed
  have accepted : parseEvents "a* > b" = .ok [.queryEnter, .startEnter, .vertexEnter "a",
      .vertexExit true (some []), .vertexEnter "b", .vertexExit false none, .startExit,
      .queryExit] := by cbv
  have empty := (claimed _ _ accepted ⟨{}, none⟩).1
  cases empty

end Traversal
