import Traversal.Proofs.Stream
import Traversal.Proofs.Trace
import Traversal.Proofs.Translation

/-! What the stream of an accepted text finds on the machine's stacks. The machine carries on with
whatever it finds: it removes from the path as much as there is, and closes results and vertices that
nobody opened. No accepted text makes it do so. The rules of streams know which parts are open, and
each open part accounts for its share of every stack. -/
namespace Traversal
open Compiler Compiler.State

/-- A part of a query that is open along a stream: a statement, a vertex of some type, a union with
the number of its members that have ended, or a block. -/
inductive OpenPart
  | statement
  | vertex (label : String)
  | union (members : Nat)
  | block
  deriving Repr, DecidableEq

namespace OpenPart

/-- Whether a part has a list of results of its own. -/
def collects : OpenPart → Bool
  | .union _ | .block => true
  | .statement | .vertex _ => false

/-- One more member of a union has ended, if the innermost part is a union. -/
def endMember : List OpenPart → List OpenPart
  | .union members :: parts => .union (members + 1) :: parts
  | parts => parts

/-- The parts that are open behind an event, the innermost first. -/
def after (parts : List OpenPart) : Event → List OpenPart
  | .startEnter | .nestedEnter => .statement :: parts
  | .vertexEnter label => .vertex label :: parts
  | .unionEnter => .union 0 :: parts
  | .whereEnter _ => .block :: parts
  | .nestedExit _ => endMember parts.tail
  | .startExit | .vertexExit _ _ | .unionExit _ | .whereExit _ => parts.tail
  | .queryEnter | .queryExit | .comma | .edgeFilter _ | .propertyFilter _ | .limit _ => parts

end OpenPart

open OpenPart

/-- The parts that a stream leaves open. -/
def openIn (events : List Event) : List OpenPart := events.foldl after []

namespace Compiler.State

/-- An event takes exactly so many vertices off the path, and at least one. -/
def Pops (context : Context) (state : State) (event : Event) (count : Nat) : Prop :=
  ∃ popped, popped ≠ [] ∧ popped.length = count ∧
    state.nodes = popped ++ (process context state event).nodes

/-- What an event has to find if the machine is not to make do with less, where some parts are open.
What ends a part finds that part innermost, and on the stacks what it takes off them; a filter finds
its vertex at the end of the path. -/
def Meets (context : Context) (parts : List OpenPart) (state : State) : Event → Prop
  | .queryEnter => state.scopes = [] ∧ state.steps = []
  | .startExit => parts.head? = some .statement ∧ Pops context state .startExit 1
  | .nestedExit count => parts.head? = some .statement ∧
      Pops context state (.nestedExit count) count ∧ state.results ≠ []
  | .vertexExit _ _ => ∃ label,
      parts.head? = some (.vertex label) ∧ state.openVertices.head? = some label
  | .propertyFilter _ => ∃ label,
      parts.head? = some (.vertex label) ∧ state.current = some label
  | .unionExit _ => ∃ found others, state.results = found :: others ∧ found ≠ [] ∧
      parts.head? = some (.union found.length)
  | .whereExit _ => parts.head? = some .block ∧ state.results ≠ []
  | .queryExit | .startEnter | .nestedEnter | .vertexEnter _ | .comma | .edgeFilter _ | .limit _
  | .unionEnter | .whereEnter _ => True

end Compiler.State

/-- How many places a statement has put on the path: that of its first vertex, if that has been seen,
and one for each step behind it. -/
def places : Option Nat → Nat
  | none => 0
  | some hops => hops + 1

/-- The stacks hold what the open parts account for: the path, the lists of results and the open
vertices, each with its top first. -/
inductive Mirrors : List Frame → List OpenPart → List String → List (List String) → List String → Prop
  /-- What the start statement has put on the path stays there behind its end. -/
  | closed {nodes : List String} : Mirrors [.outside true] [] nodes [] []
  | query {filled : Bool} {nodes : List String} (fresh : filled = false → nodes = []) :
      Mirrors [.query filled, .outside true] [] nodes [] []
  | start {hops : Option Nat} {labelled limited : Bool} {visited : List String}
      (counted : visited.length = places hops) :
      Mirrors [.statement true hops labelled limited, .query true, .outside true] [.statement]
        visited [] []
  /-- Below a nested statement everything is as it was when the statement was opened. -/
  | nested {opened below : List Frame} {hops : Option Nat} {labelled limited : Bool}
      {parts : List OpenPart} {visited nodes vertices : List String} {results : List (List String)}
      (around : Mirrors opened parts nodes results vertices)
      (enter : Advance opened .nestedEnter (.statement false none false false :: below))
      (counted : visited.length = places hops) :
      Mirrors (.statement false hops labelled limited :: below) (.statement :: parts)
        (visited ++ nodes) results vertices
  /-- While a vertex is open, it is the end of the path. -/
  | vertex {root : Bool} {keys : List String} {below : List Frame} {parts : List OpenPart}
      {label : String} {nodes vertices : List String} {results : List (List String)}
      (around : Mirrors below parts (label :: nodes) results vertices) :
      Mirrors (.vertex root keys :: below) (.vertex label :: parts) (label :: nodes) results
        (label :: vertices)
  /-- While a union is open, its place is not yet on the path, and each member that has ended has
  left a result. -/
  | union {due start : Bool} {hops members : Nat} {below : List Frame} {parts : List OpenPart}
      {found nodes vertices : List String} {results : List (List String)}
      (around : Mirrors (.statement start (some hops) false false :: below) parts nodes results
        vertices)
      (counted : found.length = members) (ended : due = false → found ≠ []) :
      Mirrors (.union due :: .statement start (some (hops + 1)) false false :: below)
        (.union members :: parts) nodes (found :: results) vertices
  | block {negated filled : Bool} {below : List Frame} {parts : List OpenPart}
      {found nodes vertices : List String} {results : List (List String)}
      (around : Mirrors below parts nodes results vertices) :
      Mirrors (.block negated filled :: below) (.block :: parts) nodes (found :: results) vertices

namespace Mirrors

variable {frames below : List Frame} {parts : List OpenPart} {nodes vertices : List String}
  {results : List (List String)}

/-- There is a list of results for every open union and block. -/
theorem length_results (mirrors : Mirrors frames parts nodes results vertices) :
    results.length = parts.countP collects := by
  induction mirrors with
  | closed | query _ | start _ => rfl
  | nested around enter counted ih | vertex around ih =>
    exact ih.trans (List.countP_cons_of_neg Bool.false_ne_true).symm
  | union around counted ended ih | block around ih =>
    rw [List.length_cons, ih, List.countP_cons_of_pos rfl]

/-- A statement accounts for what is put on the path while nothing inside it is open. -/
theorem push {start labelled limited labelled' limited' : Bool} {hops hops' : Option Nat}
    (mirrors : Mirrors (.statement start hops labelled limited :: below) parts nodes results vertices)
    (pushed : List String) (counted : places hops' = pushed.length + places hops) :
    Mirrors (.statement start hops' labelled' limited' :: below) parts (pushed ++ nodes) results
      vertices := by
  cases mirrors with
  | start visited =>
    refine .start ?_
    rw [List.length_append, visited, counted]
  | nested around enter visited =>
    rw [← List.append_assoc]
    refine .nested around enter ?_
    rw [List.length_append, visited, counted]

/-- A nested statement has put nothing on the path when it is opened. -/
theorem enterNested {opened : List Frame} (around : Mirrors opened parts nodes results vertices)
    (enter : Advance opened .nestedEnter (.statement false none false false :: below)) :
    Mirrors (.statement false none false false :: below) (.statement :: parts) nodes results
      vertices :=
  @nested _ _ none _ _ _ [] _ _ _ around enter rfl

/-- Behind a nested statement the union or the block around it has one more result. -/
theorem collectResult {opened : List Frame} (around : Mirrors opened parts nodes results vertices)
    (enter : Advance opened .nestedEnter (.statement false none false false :: below))
    (result : String) : results ≠ [] ∧
      Mirrors below (endMember parts) nodes (State.collect result results) vertices := by
  cases enter with
  | member =>
    cases around with
    | union around counted ended =>
      refine ⟨List.cons_ne_nil _ _, .union around ?_ fun _ => by simp⟩
      rw [List.length_append, counted]
      rfl
  | inner =>
    cases around with
    | block around => exact ⟨List.cons_ne_nil _ _, .block around⟩

end Mirrors

/-! ## One event -/

variable (context : Context)

theorem enterVertex_stacks (label : String) (state : State) :
    let entered := state.enterVertex context label
    entered.nodes = label :: state.nodes ∧ entered.results = state.results ∧
      entered.openVertices = label :: state.openVertices := by
  unfold enterVertex
  cases state.current <;> exact ⟨rfl, rfl, rfl⟩

theorem scopes_emit_ne_nil (step : Step) (state : State) : (state.emit step).scopes ≠ [] := by
  unfold emit
  cases state.scopes <;> exact List.cons_ne_nil _ _

theorem scopes_report_ne_nil {state : State} (opened : state.scopes ≠ [])
    (errors : List SchemaError) : (state.report errors).scopes ≠ [] := by
  unfold report
  cases errors with
  | nil => exact opened
  | cons error others => cases state.scopes <;> exact List.cons_ne_nil _ _

theorem scopes_markOutput_ne_nil {state : State} (opened : state.scopes ≠ []) (stored : Bool) :
    (state.markOutput stored).scopes ≠ [] := by
  cases stored with
  | false => exact opened
  | true => exact scopes_emit_ne_nil .store state

/-- A scope that is open stays open. -/
theorem scopes_process_ne_nil {state : State} (opened : state.scopes ≠ []) (event : Event) :
    (process context state event).scopes ≠ [] := by
  cases event with
  | queryEnter | nestedEnter => exact List.cons_ne_nil _ _
  | queryExit | edgeFilter _ => exact opened
  | nestedExit count =>
    rw [process, exitNested_eq]
    exact opened
  | vertexEnter label =>
    unfold process enterVertex
    cases state.current <;> exact scopes_emit_ne_nil _ _
  | propertyFilter filter =>
    unfold process applyFilter
    cases state.current with
    | none => exact opened
    | some node => exact scopes_emit_ne_nil _ _
  | vertexExit stored keys => exact scopes_markOutput_ne_nil (scopes_report_ne_nil opened _) stored
  | unionExit stored => exact scopes_markOutput_ne_nil (scopes_emit_ne_nil _ _) stored
  | startEnter | startExit | comma | limit _ | unionEnter | whereEnter _ | whereExit _ =>
    exact scopes_emit_ne_nil _ _

/-- A vertex that is entered is the end of the path. -/
theorem Mirrors.enterVertex {start labelled limited root : Bool} {hops hops' : Option Nat}
    {below : List Frame} {parts : List OpenPart} {state : State}
    (mirrors : Mirrors (.statement start hops labelled limited :: below) parts state.nodes
      state.results state.openVertices) (label : String) (counted : places hops' = 1 + places hops) :
    let entered := state.enterVertex context label
    Mirrors (.vertex root [] :: .statement start hops' false false :: below) (.vertex label :: parts)
      entered.nodes entered.results entered.openVertices := by
  intro entered
  obtain ⟨path, found, opened⟩ := enterVertex_stacks context label state
  rw [path, found, opened]
  exact .vertex (mirrors.push [label] counted)

/-- A nested statement takes off the path what it has put there, and its end is its result. -/
theorem Mirrors.exitNested {hops : Nat} {labelled limited : Bool} {below : List Frame}
    {parts : List OpenPart} {state : State}
    (mirrors : Mirrors (.statement false (some hops) labelled limited :: below) parts state.nodes
      state.results state.openVertices) :
    let exited := state.exitNested (1 + hops)
    Meets context parts state (.nestedExit (1 + hops)) ∧
      Mirrors below (after parts (.nestedExit (1 + hops))) exited.nodes exited.results
        exited.openVertices := by
  intro exited
  generalize path : state.nodes = nodes at mirrors
  cases mirrors with
  | nested around enter counted =>
    obtain ⟨last, others, rfl⟩ := List.exists_cons_of_length_eq_add_one counted
    have count : (last :: others).length = 1 + hops := counted.trans (Nat.add_comm hops 1)
    have shortened := exitNested_of_path path (congrArg List.head? path)
    rw [count] at shortened
    obtain ⟨listed, mirrors⟩ := around.collectResult enter last
    simp only [exited, Meets, Pops, process, shortened]
    exact ⟨⟨rfl, ⟨last :: others, List.cons_ne_nil _ _, count, path⟩, listed⟩, mirrors⟩

/-- An event that keeps the rules meets what it has to find, and leaves on the stacks what the parts
account for that are open behind it. -/
theorem mirrors_process {frames frames' : List Frame} {parts : List OpenPart} {state : State}
    {event : Event} (advance : Advance frames event frames')
    (mirrors : Mirrors frames parts state.nodes state.results state.openVertices) :
    let next := process context state event
    Meets context parts state event ∧
      Mirrors frames' (after parts event) next.nodes next.results next.openVertices := by
  -- The stacks are taken out of the state, so that the cases of `Mirrors` can say what they hold.
  obtain ⟨scopes, nodes, results, edgeLog, nodeCount, outputMarked, pendingLabels, vertices⟩ := state
  intro next
  change Mirrors frames parts nodes results vertices at mirrors
  cases advance with
  | queryEnter => cases mirrors
  | queryExit =>
    cases mirrors
    exact ⟨trivial, .closed⟩
  | startEnter =>
    cases mirrors with
    | query fresh =>
      cases fresh rfl
      exact ⟨trivial, .start rfl⟩
  | limit => exact ⟨trivial, mirrors.push [] (Nat.zero_add _).symm⟩
  | startExit =>
    cases mirrors with
    | start counted =>
      obtain ⟨last, visited, rfl⟩ := List.exists_cons_of_length_eq_add_one counted
      exact ⟨⟨rfl, [last], List.cons_ne_nil _ _, rfl, rfl⟩, .query nofun⟩
  | edgeFilter nonempty edge => exact ⟨trivial, mirrors.push [] (Nat.zero_add _).symm⟩
  | firstVertex name => exact ⟨trivial, mirrors.enterVertex context _ rfl⟩
  | nextVertex name => exact ⟨trivial, mirrors.enterVertex context _ (Nat.add_comm _ 1)⟩
  | unionEnter => exact ⟨trivial, .union (mirrors.push [] (Nat.zero_add _).symm) rfl nofun⟩
  | member => exact ⟨trivial, mirrors.enterNested .member⟩
  | comma =>
    cases mirrors with
    | union around counted ended => exact ⟨trivial, .union around counted nofun⟩
  | unionExit =>
    cases mirrors with
    | union around counted ended =>
      obtain ⟨result, others, rfl⟩ := List.exists_cons_of_ne_nil (ended rfl)
      have results := List.cons_ne_nil result others
      exact ⟨⟨_, _, rfl, results, counted ▸ rfl⟩, around.push [result] (Nat.add_comm _ 1)⟩
  | nestedExit => exact mirrors.exitNested context
  | propertyFilter formed =>
    cases mirrors with
    | vertex around => exact ⟨⟨_, rfl, rfl⟩, .vertex around⟩
  | whereEnter => exact ⟨trivial, .block mirrors⟩
  | inner => exact ⟨trivial, mirrors.enterNested .inner⟩
  | whereExit =>
    cases mirrors with
    | block around => exact ⟨⟨rfl, List.cons_ne_nil _ _⟩, around⟩
  | vertexExit =>
    cases mirrors with
    | vertex around => exact ⟨⟨_, rfl, rfl⟩, around⟩

/-! ## A stream -/

/-- The stacks mirror the open parts all along a stream that keeps the rules. -/
theorem mirrors_processAll {frames frames' : List Frame} {parts : List OpenPart} {state : State}
    {events : List Event} (path : Path Advance frames events frames')
    (mirrors : Mirrors frames parts state.nodes state.results state.openVertices)
    (opened : state.scopes ≠ []) :
    let last := processAll context state events
    last.scopes ≠ [] ∧
      Mirrors frames' (events.foldl after parts) last.nodes last.results last.openVertices := by
  induction events generalizing frames parts state with
  | nil =>
    cases path
    exact ⟨opened, mirrors⟩
  | cons event rest ih =>
    obtain ⟨middle, advance, path⟩ := path
    have next := (mirrors_process context advance mirrors).2
    exact ih path next (scopes_process_ne_nil context opened event)

/-- Behind its first event a stream that keeps the rules has opened a scope, and the stacks mirror the
open parts. In front of it nothing has happened. -/
theorem mirrors_front {front : List Event} {frames : List Frame}
    (path : Path Advance [.outside false] front frames) :
    let state := processAll context {} front
    (front = [] ∧ frames = [.outside false]) ∨ (state.scopes ≠ [] ∧
      Mirrors frames (openIn front) state.nodes state.results state.openVertices) := by
  cases front with
  | nil => exact .inl ⟨rfl, path.symm⟩
  | cons event rest =>
    obtain ⟨middle, advance, path⟩ := path
    cases advance
    let entered := process context {} .queryEnter
    have mirrors : Mirrors [.query false, .outside true] [] entered.nodes entered.results
        entered.openVertices := .query fun _ => rfl
    have opened : entered.scopes ≠ [] := List.cons_ne_nil _ _
    have behind := mirrors_processAll context path mirrors opened
    exact .inr behind

/-- Along the stream of an accepted text every event meets what it has to find, so that the machine
never makes do with less: the query begins before any scope is open, and every other event finds one
open; statements take off the path exactly what they ask for; vertices, unions and blocks are closed
by the events that belong to them, and a union has one result for each of its members. At every point
there is one list of results for each union and block that is open. -/
theorem accepted_stream_finds_what_it_expects (text : String) (events : List Event)
    (accepted : parseEvents text = .ok events) :
    (∀ front back, events = front ++ back →
      (processAll context {} front).results.length = (openIn front).countP collects) ∧
      ∀ front event back, events = front ++ event :: back →
        let state := processAll context {} front
        Meets context (openIn front) state event ∧ (event ≠ .queryEnter → state.scopes ≠ []) := by
  obtain ⟨query, formed, rfl⟩ := wellFormed_of_parseEvents accepted
  have path := orderly_events formed
  constructor
  · intro front back split
    rw [split] at path
    obtain ⟨frames, path, -⟩ := path.of_append
    obtain ⟨rfl, -⟩ | ⟨-, mirrors⟩ := mirrors_front context path
    · rfl
    · exact mirrors.length_results
  · intro front event back split state
    rw [split] at path
    obtain ⟨frames, path, next, advance, -⟩ := path.of_append
    obtain ⟨rfl, rfl⟩ | ⟨opened, mirrors⟩ := mirrors_front context path
    · cases advance
      exact ⟨⟨rfl, rfl⟩, fun other => absurd rfl other⟩
    · exact ⟨(mirrors_process context advance mirrors).1, fun _ => opened⟩

/-- Where the union in the block ends, five parts are open, and two of them, the union and the block,
have lists of results. -/
theorem union_in_a_block_finds_its_results :
    let front : List Event := [.queryEnter, .startEnter, .vertexEnter "a", .whereEnter true,
      .nestedEnter, .vertexEnter "b", .vertexExit false none, .unionEnter, .nestedEnter,
      .vertexEnter "c", .vertexExit true none, .nestedExit 1, .comma, .nestedEnter,
      .vertexEnter "d", .vertexExit false none, .vertexEnter "e", .vertexExit false none,
      .nestedExit 2]
    let back : List Event := [.nestedExit 2, .whereExit true, .vertexExit false (some []), .startExit,
      .queryExit]
    parseEvents "a !(> b > [c*, d > e])" = .ok (front ++ .unionExit false :: back) ∧
      openIn front = [.union 2, .statement, .block, .vertex "a", .statement] ∧
      ∀ context : Context,
        let state := processAll context {} front
        state.results.length = 2 ∧ Meets context (openIn front) state (.unionExit false) := by
  intro front back
  have accepted : parseEvents "a !(> b > [c*, d > e])" = .ok (front ++ .unionExit false :: back) := by
    cbv
  refine ⟨accepted, rfl, fun context => ?_⟩
  obtain ⟨results, found⟩ := accepted_stream_finds_what_it_expects context _ _ accepted
  exact ⟨results front _ rfl, (found front _ back rfl).1⟩

end Traversal
