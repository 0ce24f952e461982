import Traversal.Proofs.WellFormed

/-! Well-formed streams. A stream is checked with a stack of the parts that are open: every event
must be allowed by the part on top, which it may change, close or cover with a part that it opens.
So parts are closed in the reverse of the order in which they were opened. The rules say nothing
about trees; that the stream of a tree keeps them is proved here. -/
namespace Traversal

/-- Moves of a relation between states, one after the other, each with its label. -/
def Path {σ ε : Type} (moves : σ → ε → σ → Prop) : σ → List ε → σ → Prop
  | state, [], last => state = last
  | state, label :: rest, last => ∃ next, moves state label next ∧ Path moves next rest last

section

variable {σ ε : Type} {moves : σ → ε → σ → Prop} {state middle last : σ} {label : ε}
  {front back : List ε}

theorem Path.cons (move : moves state label middle) (path : Path moves middle back last) :
    Path moves state (label :: back) last :=
  ⟨middle, move, path⟩

theorem path_single (move : moves state label last) : Path moves state [label] last :=
  Path.cons move rfl

theorem Path.append (left : Path moves state front middle) (right : Path moves middle back last) :
    Path moves state (front ++ back) last := by
  induction front generalizing state with
  | nil =>
    cases left
    exact right
  | cons label rest ih =>
    obtain ⟨next, move, path⟩ := left
    exact ⟨next, move, ih path⟩

/-- Moves along an append pass a state in the middle. -/
theorem Path.of_append (path : Path moves state (front ++ back) last) :
    ∃ middle, Path moves state front middle ∧ Path moves middle back last := by
  induction front generalizing state with
  | nil => exact ⟨state, rfl, path⟩
  | cons label rest ih =>
    obtain ⟨next, move, path⟩ := path
    obtain ⟨middle, left, right⟩ := ih path
    exact ⟨middle, ⟨next, move, left⟩, right⟩

end

/-- A part of a query that is open, with what the stream has told of it so far. -/
inductive Frame
  /-- The surroundings of the query, and whether it has been seen. -/
  | outside (seen : Bool)
  /-- The query, and whether its start statement has been seen. -/
  | query (filled : Bool)
  /-- A statement: whether it is the start statement, how many steps its first vertex has been
  followed by, if that has been seen, whether edge labels wait for the place where the edge leads,
  and whether a limit was given. -/
  | statement (start : Bool) (hops : Option Nat) (labelled limited : Bool)
  /-- A vertex: whether it is the root, and the keys of its own filters in order. -/
  | vertex (root : Bool) (keys : List String)
  /-- A union, and whether a member is due. -/
  | union (due : Bool)
  /-- A block: whether it is negated, and whether its statement has been seen. -/
  | block (negated filled : Bool)

/-- The numbers and the truth values of a filter are written as such. -/
def FilterEvent.WellFormed (filter : FilterEvent) : Prop :=
  (∀ digits ∈ filter.numbers, NumberText digits.toList) ∧
    ∀ word ∈ filter.booleans, BooleanText word.toList

/-- The rules: which events the open parts allow, and what is open afterwards. The innermost part
comes first. -/
inductive Advance : List Frame → Event → List Frame → Prop
  | queryEnter : Advance [.outside false] .queryEnter [.query false, .outside true]
  | queryExit : Advance [.query true, .outside true] .queryExit [.outside true]
  | startEnter {below : List Frame} : Advance (.query false :: below) .startEnter
      (.statement true none false false :: .query true :: below)
  /-- The limit is the last that stands in the start statement. -/
  | limit {hops count : Nat} {below : List Frame} (fits : count < Text.countBound) :
      Advance (.statement true (some hops) false false :: below) (.limit count)
        (.statement true (some hops) false true :: below)
  | startExit {hops : Nat} {limited : Bool} {below : List Frame} :
      Advance (.statement true (some hops) false limited :: below) .startExit below
  /-- Labels wait for the vertex or the union that comes next. No edge leads to the root. -/
  | edgeFilter {start : Bool} {hops : Option Nat} {labels : List String} {below : List Frame}
      (nonempty : labels ≠ []) (edge : start = true → hops ≠ none) :
      Advance (.statement start hops false false :: below) (.edgeFilter labels)
        (.statement start hops true false :: below)
  | firstVertex {start labelled : Bool} {label : String} {below : List Frame}
      (name : LabelText label.toList) :
      Advance (.statement start none labelled false :: below) (.vertexEnter label)
        (.vertex start [] :: .statement start (some 0) false false :: below)
  | nextVertex {start labelled : Bool} {hops : Nat} {label : String} {below : List Frame}
      (name : LabelText label.toList) :
      Advance (.statement start (some hops) labelled false :: below) (.vertexEnter label)
        (.vertex false [] :: .statement start (some (hops + 1)) false false :: below)
  | unionEnter {start labelled : Bool} {hops : Nat} {below : List Frame} :
      Advance (.statement start (some hops) labelled false :: below) .unionEnter
        (.union true :: .statement start (some (hops + 1)) false false :: below)
  /-- A member begins a union or stands behind a comma, and a comma stands behind a member. -/
  | member {below : List Frame} : Advance (.union true :: below) .nestedEnter
      (.statement false none false false :: .union false :: below)
  | comma {below : List Frame} : Advance (.union false :: below) .comma (.union true :: below)
  | unionExit {stored : Bool} {below : List Frame} :
      Advance (.union false :: below) (.unionExit stored) below
  /-- The count of a nested statement is that of its first vertex and of the steps behind it. -/
  | nestedExit {hops : Nat} {below : List Frame} :
      Advance (.statement false (some hops) false false :: below) (.nestedExit (1 + hops)) below
  | propertyFilter {root : Bool} {keys : List String} {filter : FilterEvent} {below : List Frame}
      (formed : filter.WellFormed) : Advance (.vertex root keys :: below) (.propertyFilter filter)
        (.vertex root (keys ++ [filter.key]) :: below)
  | whereEnter {root negated : Bool} {keys : List String} {below : List Frame} :
      Advance (.vertex root keys :: below) (.whereEnter negated)
        (.block negated false :: .vertex root keys :: below)
  /-- A block holds one statement. -/
  | inner {negated : Bool} {below : List Frame} : Advance (.block negated false :: below) .nestedEnter
      (.statement false none false false :: .block negated true :: below)
  | whereExit {negated : Bool} {below : List Frame} :
      Advance (.block negated true :: below) (.whereExit negated) below
  /-- The root, and no other vertex, reports the keys of its own filters. -/
  | vertexExit {root stored : Bool} {keys : List String} {below : List Frame} :
      Advance (.vertex root keys :: below) (.vertexExit stored (if root then some keys else none))
        below

/-- The stream holds one query and nothing else, and keeps the rules throughout. -/
def Orderly (events : List Event) : Prop := Path Advance [.outside false] events [.outside true]

/-! ## The stream of a tree keeps the rules -/

theorem Filter.event_wellFormed {test : Filter} (formed : ∀ value ∈ test.values, value.WellFormed) :
    test.event.WellFormed := by
  constructor
  · intro digits member
    obtain ⟨value, found, same⟩ := List.mem_filterMap.mp member
    cases value <;> cases same
    exact formed _ found
  · intro word member
    obtain ⟨value, found, same⟩ := List.mem_filterMap.mp member
    cases value <;> cases same
    exact formed _ found

theorem follows_labelEvents (start : Bool) (hops : Option Nat) (below : List Frame)
    (labels : List String) (edge : start = true → hops ≠ none) :
    ∃ labelled, Path Advance (.statement start hops false false :: below) (labelEvents labels)
      (.statement start hops labelled false :: below) := by
  cases labels with
  | nil => exact ⟨false, rfl⟩
  | cons label rest => exact ⟨true, path_single (.edgeFilter (List.cons_ne_nil label rest) edge)⟩

mutual

/-- A clause leaves its vertex open, with one more key if it is a filter. -/
theorem Clause.follows : ∀ (clause : Clause) (root : Bool) (keys : List String)
    (below : List Frame), clause.WellFormed → Path Advance (.vertex root keys :: below) clause.events
      (.vertex root (keys ++ clause.key?.toList) :: below)
  | .filter test, root, keys, below, formed =>
    path_single (.propertyFilter (Filter.event_wellFormed formed))
  | .block negated inner, root, keys, below, formed => by
    have statement : Path Advance (.block negated false :: .vertex root keys :: below) inner.events
        (.block negated true :: .vertex root keys :: below) := inner.follows formed .inner
    have whole := Path.cons .whereEnter (statement.append (path_single .whereExit))
    rw [Clause.key?, Option.toList_none, List.append_nil]
    exact whole

/-- Clauses leave their vertex open with the keys of the filters among them. -/
theorem Clause.followsList : ∀ (clauses : List Clause) (root : Bool) (keys : List String)
    (below : List Frame), Clause.WellFormedList clauses →
    Path Advance (.vertex root keys :: below) (Clause.eventsOfList clauses)
      (.vertex root (keys ++ clauses.filterMap Clause.key?) :: below)
  | [], root, keys, below, formed => by
    rw [List.filterMap_nil, List.append_nil]
    exact rfl
  | clause :: rest, root, keys, below, formed => by
    have first := clause.follows root keys below formed.1
    have others := Clause.followsList rest root (keys ++ clause.key?.toList) below formed.2
    have listed : (clause :: rest).filterMap Clause.key? =
        clause.key?.toList ++ rest.filterMap Clause.key? := by
      cases key : clause.key? <;> simp [key]
    rw [Clause.eventsOfList, listed, ← List.append_assoc]
    exact first.append others

/-- A vertex is closed again, however it was entered, and reports its keys if it is the root. -/
theorem Vertex.follows : ∀ (vertex : Vertex) (root : Bool) {opened below : List Frame},
    vertex.WellFormed →
    (LabelText vertex.label.toList → Advance opened (.vertexEnter vertex.label)
      (.vertex root [] :: below)) →
    Path Advance opened (vertex.events (if root then some vertex.filterKeys else none)) below
  | .mk _ clauses _, root, _, below, formed, enter =>
    Path.cons (enter formed.1)
      ((Clause.followsList clauses root [] below formed.2).append (path_single .vertexExit))

/-- The place where a hop leads adds one to the count of its statement. -/
theorem Target.follows : ∀ (target : Target) (start labelled : Bool) (hops : Nat)
    (below : List Frame), target.WellFormed →
    Path Advance (.statement start (some hops) labelled false :: below) target.events
      (.statement start (some (hops + 1)) false false :: below)
  | .vertex vertex, start, labelled, hops, below, formed =>
    vertex.follows false formed .nextVertex
  | .union first others stored, start, labelled, hops, below, formed => by
    let around := Frame.statement start (some (hops + 1)) false false :: below
    have member : Path Advance (.union true :: around) first.events (.union false :: around) :=
      first.follows formed.1 .member
    have members := member.append (Nested.followsOthers others around formed.2)
    exact Path.cons .unionEnter (members.append (path_single .unionExit))

/-- So does a hop with its labels. -/
theorem Hop.follows : ∀ (hop : Hop) (start : Bool) (hops : Nat) (below : List Frame),
    hop.WellFormed → Path Advance (.statement start (some hops) false false :: below) hop.events
      (.statement start (some (hops + 1)) false false :: below)
  | .mk labels target, start, hops, below, formed => by
    obtain ⟨labelled, constraint⟩ := follows_labelEvents start (some hops) below labels
      fun _ => Option.some_ne_none hops
    exact constraint.append (target.follows start labelled hops below formed)

/-- Hops add their number to the count of their statement. -/
theorem Hop.followsList : ∀ (hops : List Hop) (start : Bool) (count : Nat) (below : List Frame),
    Hop.WellFormedList hops →
    Path Advance (.statement start (some count) false false :: below) (Hop.eventsOfList hops)
      (.statement start (some (count + hops.length)) false false :: below)
  | [], start, count, below, formed => rfl
  | hop :: rest, start, count, below, formed => by
    have first := hop.follows start count below formed.1
    have others := Hop.followsList rest start (count + 1) below formed.2
    rw [Hop.eventsOfList, List.length_cons, Nat.add_comm rest.length, ← Nat.add_assoc]
    exact first.append others

/-- A nested statement is closed again, however it was opened, with the count of its hops. -/
theorem Nested.follows : ∀ (statement : Nested) {opened below : List Frame},
    statement.WellFormed →
    Advance opened .nestedEnter (.statement false none false false :: below) →
    Path Advance opened statement.events below
  | .mk labels head hops, opened, below, formed, enter => by
    obtain ⟨labelled, constraint⟩ := follows_labelEvents false none below labels
      fun start => Bool.noConfusion start
    have first := constraint.append (head.follows false formed.1 .firstVertex)
    have steps := Hop.followsList hops false 0 below formed.2
    rw [Nat.zero_add] at steps
    exact Path.cons enter ((first.append steps).append (path_single .nestedExit))

/-- The members of a union behind the first leave it open. -/
theorem Nested.followsOthers : ∀ (others : List Nested) (below : List Frame),
    Nested.WellFormedList others →
    Path Advance (.union false :: below) (Nested.eventsOfOthers others) (.union false :: below)
  | [], _, _ => rfl
  | member :: rest, below, formed =>
    Path.cons .comma ((member.follows formed.1 .member).append
      (Nested.followsOthers rest below formed.2))

end

/-- The stream of a well-formed tree keeps the rules. -/
theorem orderly_events {query : Query} (formed : query.WellFormed) : Orderly query.events := by
  obtain ⟨root, hops, limit⟩ := query
  obtain ⟨root', hops', fits⟩ := formed
  let around := [Frame.query true, Frame.outside true]
  have first : Path Advance (.statement true none false false :: around)
      (root.events (some root.filterKeys)) (.statement true (some 0) false false :: around) :=
    root.follows true root' .firstVertex
  have steps := Hop.followsList hops true 0 around hops'
  obtain ⟨limited, bound⟩ : ∃ limited, Path Advance
      (.statement true (some (0 + hops.length)) false false :: around) (limitEvents limit)
      (.statement true (some (0 + hops.length)) false limited :: around) := by
    cases limit with
    | none => exact ⟨false, rfl⟩
    | some count => exact ⟨true, path_single (.limit (fits count rfl))⟩
  have closed : Path Advance (.statement true (some (0 + hops.length)) false limited :: around)
      [.startExit, .queryExit] [.outside true] := Path.cons .startExit (path_single .queryExit)
  exact Path.cons .queryEnter (Path.cons .startEnter
    (((first.append steps).append bound).append closed))

/-- Every accepted text has a well-formed stream: it is the stream of a well-formed tree, and it
keeps the rules of streams. -/
theorem accepted_stream_is_orderly (text : String) (events : List Event)
    (accepted : parseEvents text = .ok events) :
    ∃ query : Query, query.WellFormed ∧ query.events = events ∧ Orderly events := by
  obtain ⟨query, formed, rfl⟩ := wellFormed_of_parseEvents accepted
  exact ⟨query, formed, rfl, orderly_events formed⟩

theorem nested_union_stream_is_orderly :
    let events : List Event := [.queryEnter, .startEnter, .vertexEnter "a",
      .propertyFilter ⟨"k", false, [], ["1"], []⟩, .whereEnter true, .nestedEnter,
      .edgeFilter ["m"], .vertexEnter "b", .propertyFilter ⟨"l", true, [], [], ["TRUE"]⟩,
      .vertexExit false none, .unionEnter, .nestedEnter, .vertexEnter "c", .vertexExit true none,
      .nestedExit 1, .comma, .nestedEnter, .vertexEnter "d", .vertexExit false none,
      .vertexEnter "e", .vertexExit false none, .nestedExit 2, .unionExit false, .nestedExit 2,
      .whereExit true, .vertexExit false (some ["k"]), .limit 5, .startExit, .queryExit]
    parseEvents "a ('k', 1) !(> ('m') b !('l', TRUE) > [c*, d > e]) LIMIT 5" = .ok events ∧
      Orderly events := by
  intro events
  have accepted : parseEvents "a ('k', 1) !(> ('m') b !('l', TRUE) > [c*, d > e]) LIMIT 5" =
      .ok events := by cbv
  obtain ⟨_, -, -, orderly⟩ := accepted_stream_is_orderly _ events accepted
  exact ⟨accepted, orderly⟩

end Traversal
