import Traversal.Proofs.Translation

/-! Which edge each list of labels constrains. Labels may stand in front of a vertex, of a union or of
a member of a union, and they constrain the edge to the vertex that is entered next. So two lists can
stand in front of one edge: one in front of a union and one that its first member begins with. The
second replaces the first; every other list that is written constrains an edge of its own. -/
namespace Traversal
open Compiler Compiler.State

namespace Event

/-- The labels that an event writes in front of an edge. -/
def labels? : Event → Option (List String)
  | .edgeFilter labels => some labels
  | _ => none

/-- The type of the vertex that is entered next. -/
def nextEntered : List Event → Option String
  | [] => none
  | .vertexEnter label :: _ => some label
  | _ :: rest => nextEntered rest

/-- Whether events replace the labels in front of them: they open a union whose first member begins
with labels of its own. -/
def relabel : List Event → Bool
  | .unionEnter :: .nestedEnter :: .edgeFilter _ :: _ => true
  | _ => false

/-- The lists of labels in a stream that are not replaced, each with the type of the vertex that is
entered next. -/
def constraints : List Event → List (List String × Option String)
  | [] => []
  | .edgeFilter labels :: rest =>
    if relabel rest then constraints rest else (labels, nextEntered rest) :: constraints rest
  | _ :: rest => constraints rest

end Event

/-- The labels that constrain an edge, if there are any, with the type of the vertex that it enters. -/
def Step.constraint? : Step → Option (List String × Option String)
  | .edge _ target labels => if labels.isEmpty then none else some (labels, some target)
  | _ => none

open Event

/-! ## The constraints of a tree -/

/-- Labels that nothing replaces constrain the edge to the vertex that is entered next. -/
theorem constraints_labelEvents (source target : String) (labels : List String)
    {events : List Event} (kept : relabel events = false)
    (entered : nextEntered events = some target) :
    constraints (labelEvents labels ++ events) =
      [Step.edge source target labels].filterMap Step.constraint? ++ constraints events := by
  cases labels with
  | nil => rfl
  | cons label rest =>
    change constraints (.edgeFilter (label :: rest) :: events) = _
    rw [constraints, kept, entered]
    rfl

/-- Of the labels in front of a union and those that its first member begins with, the chosen ones
constrain the edge to the vertex that is entered next. -/
theorem constraints_chosenLabels (source target : String) (labels inherited : List String)
    {events : List Event} (kept : relabel events = false)
    (kept' : relabel (.unionEnter :: .nestedEnter :: events) = false)
    (entered : nextEntered events = some target) :
    constraints (labelEvents inherited ++
        (.unionEnter :: .nestedEnter :: (labelEvents labels ++ events))) =
      [Step.edge source target (chosenLabels labels inherited)].filterMap Step.constraint? ++
        constraints events := by
  cases labels with
  | nil => exact constraints_labelEvents source target inherited kept' entered
  | cons label others =>
    have own := constraints_labelEvents source target (label :: others) kept entered
    cases inherited with
    | nil => exact own
    | cons => exact own

theorem constraint?_storeSteps (stored : Bool) :
    (storeSteps stored).filterMap Step.constraint? = [] := by
  cases stored <;> rfl

theorem Vertex.relabel_events (vertex : Vertex) (keys : Option (List String))
    (rest : List Event) : relabel (vertex.events keys ++ rest) = false := by
  cases vertex
  rfl

theorem Vertex.nextEntered_events (vertex : Vertex) (keys : Option (List String))
    (rest : List Event) : nextEntered (vertex.events keys ++ rest) = some vertex.label := by
  cases vertex
  rfl

mutual

theorem Clause.constraints_events : ∀ (clause : Clause) (node : String) (rest : List Event),
    constraints (clause.events ++ rest) =
      (clause.steps node).filterMap Step.constraint? ++ constraints rest
  | .filter test, node, rest => rfl
  | .block negated inner, node, rest => by
    have statement := inner.constraints_events node [] (.whereExit negated :: rest)
    rw [Clause.events, List.cons_append, List.append_assoc]
    refine Eq.trans statement ?_
    simp only [Clause.steps, List.filterMap_cons, List.filterMap_append, List.filterMap_nil,
      Step.constraint?, List.append_nil]
    rfl

theorem Clause.constraints_eventsOfList : ∀ (clauses : List Clause) (node : String)
    (rest : List Event), constraints (Clause.eventsOfList clauses ++ rest) =
      (Clause.stepsOfList node clauses).filterMap Step.constraint? ++ constraints rest
  | [], node, rest => rfl
  | clause :: others, node, rest => by
    rw [Clause.eventsOfList, List.append_assoc, clause.constraints_events node,
      Clause.constraints_eventsOfList others node, Clause.stepsOfList, List.filterMap_append,
      List.append_assoc]

/-- No labels stand in front of a vertex among its own events. -/
theorem Vertex.constraints_events : ∀ (vertex : Vertex) (keys : Option (List String))
    (rest : List Event), constraints (vertex.events keys ++ rest) =
      vertex.innerSteps.filterMap Step.constraint? ++ constraints rest
  | .mk label clauses stored, keys, rest => by
    have inner := Clause.constraints_eventsOfList clauses label (.vertexExit stored keys :: rest)
    rw [Vertex.events, List.cons_append, List.append_assoc]
    refine Eq.trans inner ?_
    rw [Vertex.innerSteps, List.filterMap_append, constraint?_storeSteps, List.append_nil]
    rfl

/-- Labels in front of a hop's target constrain the first edge that it follows, unless the target
replaces them. -/
theorem Target.constraints_events : ∀ (target : Target) (source : String) (labels : List String)
    (rest : List Event), constraints (labelEvents labels ++ (target.events ++ rest)) =
      (target.steps source labels).filterMap Step.constraint? ++ constraints rest
  | .vertex vertex, source, labels, rest => by
    rw [Target.events, constraints_labelEvents source vertex.label labels
      (vertex.relabel_events none rest) (vertex.nextEntered_events none rest),
      vertex.constraints_events, ← List.append_assoc, ← List.filterMap_append]
    rfl
  | .union first others stored, source, labels, rest => by
    have head := first.constraints_events source labels
      (Nested.eventsOfOthers others ++ (.unionExit stored :: rest))
    have tail := Nested.constraints_eventsOfOthers others source (.unionExit stored :: rest)
    rw [Target.events, List.cons_append, List.append_assoc, List.append_assoc]
    refine Eq.trans head ?_
    rw [tail]
    simp only [Target.steps, List.filterMap_cons, List.filterMap_append, Step.constraint?,
      constraint?_storeSteps, List.append_nil, List.append_assoc]
    rfl

theorem Hop.constraints_events : ∀ (hop : Hop) (source : String) (rest : List Event),
    constraints (hop.events ++ rest) =
      (hop.steps source).filterMap Step.constraint? ++ constraints rest
  | .mk labels target, source, rest => by
    rw [Hop.events, List.append_assoc]
    exact target.constraints_events source labels rest

theorem Hop.constraints_eventsOfList : ∀ (hops : List Hop) (source : String) (rest : List Event),
    constraints (Hop.eventsOfList hops ++ rest) =
      (Hop.stepsOfList source hops).filterMap Step.constraint? ++ constraints rest
  | [], source, rest => rfl
  | hop :: others, source, rest => by
    rw [Hop.eventsOfList, List.append_assoc, hop.constraints_events source,
      Hop.constraints_eventsOfList others hop.result, Hop.stepsOfList, List.filterMap_append,
      List.append_assoc]

/-- A nested statement behind the labels of a union. Without a union there are none. -/
theorem Nested.constraints_events : ∀ (statement : Nested) (source : String)
    (inherited : List String) (rest : List Event),
    constraints (labelEvents inherited ++ (.unionEnter :: (statement.events ++ rest))) =
      (statement.steps source inherited).filterMap Step.constraint? ++ constraints rest
  | .mk labels head hops, source, inherited, rest => by
    let ending := .nestedExit (1 + hops.length) :: rest
    let body := head.events none ++ (Hop.eventsOfList hops ++ ending)
    have steps : constraints body = (head.innerSteps ++
        Hop.stepsOfList head.label hops).filterMap Step.constraint? ++ constraints rest := by
      rw [head.constraints_events, Hop.constraints_eventsOfList hops head.label,
        List.filterMap_append, List.append_assoc]
      rfl
    have kept : relabel (.unionEnter :: .nestedEnter :: body) = false := by
      cases head
      rfl
    have edge := constraints_chosenLabels source head.label labels inherited
      (head.relabel_events none _) kept (head.nextEntered_events none _)
    have written : Nested.events (.mk labels head hops) ++ rest =
        .nestedEnter :: (labelEvents labels ++ body) := by
      simp only [Nested.events, body, ending, List.cons_append, List.append_assoc, List.nil_append]
    rw [written, edge, steps, ← List.append_assoc, ← List.filterMap_append]
    rfl

theorem Nested.constraints_eventsOfOthers : ∀ (others : List Nested) (source : String)
    (rest : List Event), constraints (Nested.eventsOfOthers others ++ rest) =
      (Nested.stepsOfOthers source others).filterMap Step.constraint? ++ constraints rest
  | [], source, rest => rfl
  | member :: others, source, rest => by
    have first := member.constraints_events source [] (Nested.eventsOfOthers others ++ rest)
    rw [Nested.eventsOfOthers, List.cons_append, List.append_assoc]
    refine Eq.trans first ?_
    rw [Nested.constraints_eventsOfOthers others source]
    simp only [Nested.stepsOfOthers, List.filterMap_cons, List.filterMap_append, Step.constraint?,
      List.append_assoc]

end

/-- The constraints in the stream of a tree are those of its steps. -/
theorem constraints_query (aggregate : Bool) (query : Query) :
    constraints query.events = (query.steps aggregate).filterMap Step.constraint? := by
  obtain ⟨root, hops, limit⟩ := query
  let ending := limitEvents limit ++ [Event.startExit, .queryExit]
  have closed : constraints ending = [] := by cases limit <;> rfl
  have limited : (limitSteps limit).filterMap Step.constraint? = [] := by cases limit <;> rfl
  have body : constraints (root.events (some root.filterKeys) ++ (Hop.eventsOfList hops ++ ending)) =
      _ := root.constraints_events _ _
  rw [Hop.constraints_eventsOfList hops root.label, closed, List.append_nil] at body
  simp only [Query.events, List.append_assoc]
  refine Eq.trans body ?_
  simp only [Query.steps, List.filterMap_cons, List.filterMap_append, List.filterMap_nil,
    Step.constraint?, limited, List.append_nil]

/-! ## Constraints that are replaced -/

theorem constraints_sublist (events : List Event) :
    ((constraints events).map Prod.fst).Sublist (events.filterMap labels?) := by
  induction events with
  | nil => exact .slnil
  | cons event rest ih =>
    cases event with
    | edgeFilter labels =>
      change ((constraints (.edgeFilter labels :: rest)).map Prod.fst).Sublist
        (labels :: rest.filterMap labels?)
      rw [constraints]
      split
      · exact ih.cons labels
      · exact ih.cons_cons labels
    | _ => exact ih

/-- All labels of a stream are kept if and only if nothing replaces any of them. -/
theorem constraints_eq_labels_iff (events : List Event) :
    events.filterMap labels? = (constraints events).map Prod.fst ↔
      ∀ labels rest, .edgeFilter labels :: rest <:+ events → relabel rest = false := by
  induction events with
  | nil => simp [constraints]
  | cons event rest ih =>
    have behind : (∀ labels tail, .edgeFilter labels :: tail <:+ event :: rest →
          relabel tail = false) ↔
        (∀ labels, event = .edgeFilter labels → relabel rest = false) ∧
          ∀ labels tail, .edgeFilter labels :: tail <:+ rest → relabel tail = false := by
      simp only [List.suffix_cons_iff, or_imp, forall_and, List.cons.injEq]
      refine and_congr_left fun _ => ⟨fun first labels same => first labels rest ⟨same.symm, rfl⟩, ?_⟩
      rintro first labels tail ⟨same, rfl⟩
      exact first labels same.symm
    rw [behind, ← ih]
    cases event with
    | edgeFilter labels =>
      have bound := (constraints_sublist rest).length_le
      change labels :: rest.filterMap labels? = _ ↔ _
      rw [constraints]
      cases replaced : relabel rest with
      | false => simp
      | true =>
        refine ⟨fun same => ?_, fun kept => Bool.noConfusion (kept.1 labels rfl)⟩
        have longer := congrArg List.length same
        simp only [↓reduceIte, List.length_cons] at longer
        omega
    | _ => exact (and_iff_right fun _ same => Event.noConfusion same).symm

/-! ## The constraints of an accepted text -/

/-- No labels are lost but those that other labels replace. The labels that are kept in the stream of
an accepted text are those of the edges of its steps, in order and one list for each edge, which
enters the vertex that follows the labels; so no edge has labels that were not written for it. All
labels that were written are kept if and only if no labels stand in front of a union whose first
member begins with labels of its own. -/
theorem kept_labels_constrain_one_edge_each (context : Context) (text : String)
    (events : List Event) (accepted : parseEvents text = .ok events) :
    let constrained := (processAll context {} events).steps.filterMap Step.constraint?
    constraints events = constrained ∧
      (events.filterMap labels? = constrained.map Prod.fst ↔
        ∀ labels rest, .edgeFilter labels :: rest <:+ events → relabel rest = false) := by
  intro constrained
  obtain ⟨query, -, rfl⟩ := parse_of_parseEvents accepted
  have same : constraints query.events = constrained := by
    rw [constraints_query context.settings.aggregate, ← steps_processAll_query]
  exact ⟨same, same ▸ constraints_eq_labels_iff query.events⟩

/-- The labels `x` are replaced by `m`; `y` stand in front of a union too, but its first member begins
with none. -/
theorem replaced_labels_constrain_no_edge :
    ∃ events, parseEvents "a > ('x') [('m') b*, c] > ('y', 'z') [d(> ('n') e), ('o') f]" =
        .ok events ∧
      events.filterMap labels? = [["x"], ["m"], ["y", "z"], ["n"], ["o"]] ∧
      ∀ context : Context, (processAll context {} events).steps.filterMap Step.constraint? =
        [(["m"], some "b"), (["y", "z"], some "d"), (["n"], some "e"), (["o"], some "f")] := by
  let events : List Event := [.queryEnter, .startEnter, .vertexEnter "a",
    .vertexExit false (some []), .edgeFilter ["x"], .unionEnter, .nestedEnter, .edgeFilter ["m"],
    .vertexEnter "b", .vertexExit true none, .nestedExit 1, .comma, .nestedEnter, .vertexEnter "c",
    .vertexExit false none, .nestedExit 1, .unionExit false, .edgeFilter ["y", "z"], .unionEnter,
    .nestedEnter, .vertexEnter "d", .whereEnter false, .nestedEnter, .edgeFilter ["n"],
    .vertexEnter "e", .vertexExit false none, .nestedExit 1, .whereExit false,
    .vertexExit false none, .nestedExit 1, .comma, .nestedEnter, .edgeFilter ["o"],
    .vertexEnter "f", .vertexExit false none, .nestedExit 1, .unionExit false, .startExit,
    .queryExit]
  have accepted : parseEvents "a > ('x') [('m') b*, c] > ('y', 'z') [d(> ('n') e), ('o') f]" =
      .ok events := by cbv
  refine ⟨events, accepted, by decide, fun context => ?_⟩
  obtain ⟨kept, -⟩ := kept_labels_constrain_one_edge_each context _ events accepted
  exact kept.symm.trans (by decide)

/-- Not all labels in an accepted text constrain an edge. -/
theorem labels_of_a_union_can_be_lost :
    ∃ events, parseEvents "a > ('x') [ ('m') b*, c ]" = .ok events ∧
      ∀ context : Context, events.filterMap labels? ≠
        ((processAll context {} events).steps.filterMap Step.constraint?).map Prod.fst := by
  let query : Query := ⟨.mk "a" [] false,
    [.mk ["x"] (.union (.mk ["m"] (.mk "b" [] true) []) [.mk [] (.mk "c" [] false) []] false)], none⟩
  have parsed : Query.parse "a > ('x') [ ('m') b*, c ]".toList = .ok query := by cbv
  refine ⟨query.events, by rw [parseEvents, parsed]; rfl, fun context => ?_⟩
  rw [steps_processAll_query]
  cases context.settings.aggregate <;> decide

end Traversal
