import Traversal.Proofs.Legibility
import Traversal.Proofs.Stream

/-! The arrangement of steps. Which steps are possible at a stage depends on what is open there, and
that follows from the steps before. The steps of every well-formed tree are arranged so. -/
namespace Traversal

/-- What a step has opened and another step will close. -/
inductive Opener
  | union
  | block (negated : Bool)

/-- A stage between two steps. In a statement it is known what is open around it, the innermost
first, each with the vertex that it hangs on. -/
inductive Stage
  /-- In front of all steps. -/
  | beginning
  /-- In front of the step for the root. -/
  | root
  /-- Where a nested statement has to begin. -/
  | statement (around : List (Opener × String))
  /-- Where the first edge of a nested statement has to stand. -/
  | departure (around : List (Opener × String))
  /-- Behind the vertex at which a filter or a block would apply. -/
  | body (node : String) (around : List (Opener × String))
  /-- Behind all steps. -/
  | ending

/-- The steps that are possible at a stage, and the stage behind each. -/
inductive Goes (aggregate : Bool) : Stage → Step → Stage → Prop
  | start : Goes aggregate .beginning .start .root
  | nodeType {label : String} : Goes aggregate .root (.nodeType label) (.body label [])
  | startInstance {around : List (Opener × String)} :
      Goes aggregate (.statement around) .startInstance (.departure around)
  | departure {source target : String} {labels : List String} {around : List (Opener × String)} :
      Goes aggregate (.departure around) (.edge source target labels) (.body target around)
  | filter {node key : String} {negated : Bool} {values : List Value}
      {around : List (Opener × String)} (written : ∀ value ∈ values, value.Written) :
      Goes aggregate (.body node around) (.filter node key negated values) (.body node around)
  | edge {node source target : String} {labels : List String} {around : List (Opener × String)} :
      Goes aggregate (.body node around) (.edge source target labels) (.body target around)
  | store {node : String} {around : List (Opener × String)} :
      Goes aggregate (.body node around) .store (.body node around)
  | whereOpen {node : String} {negated : Bool} {around : List (Opener × String)} :
      Goes aggregate (.body node around) (.whereOpen negated)
        (.statement ((.block negated, node) :: around))
  | whereClose {last node : String} {negated : Bool} {around : List (Opener × String)} :
      Goes aggregate (.body last ((.block negated, node) :: around)) (.whereClose negated)
        (.body node around)
  | unionOpen {node : String} {around : List (Opener × String)} :
      Goes aggregate (.body node around) .unionOpen (.statement ((.union, node) :: around))
  | comma {last node : String} {around : List (Opener × String)} :
      Goes aggregate (.body last ((.union, node) :: around)) .comma
        (.statement ((.union, node) :: around))
  | unionClose {last node : String} {around : List (Opener × String)} :
      Goes aggregate (.body last ((.union, node) :: around)) .unionClose (.body node around)
  | limit {node : String} {count : Nat} :
      Goes aggregate (.body node []) (.limit count) (.body node [])
  | collect {node : String} : Goes aggregate (.body node []) (.collect aggregate) .ending

/-- A stage and a step determine the stage behind it. -/
theorem Goes.unique {aggregate : Bool} {stage next next' : Stage} {step : Step}
    (goes : Goes aggregate stage step next) (goes' : Goes aggregate stage step next') :
    next = next' := by
  cases goes <;> cases goes' <;> rfl

/-! ## Written values -/

private theorem letter_of_toLower {c small : Char} (lower : c.toLower = small)
    (known : small ∈ ['t', 'r', 'u', 'e', 'f', 'a', 'l', 's']) :
    Text.Lowercase.letter c = [small] ∧ c ≠ 'Σ' := by
  have either := Grammar.small_or_capital lower
  simp only [List.mem_cons, List.not_mem_nil, or_false] at known
  rcases known with rfl | rfl | rfl | rfl | rfl | rfl | rfl | rfl <;>
    rcases either with rfl | rfl <;> decide

private theorem lowercase_of_toLower {text small : List Char} (lower : AnyCase small text)
    (known : small ⊆ ['t', 'r', 'u', 'e', 'f', 'a', 'l', 's']) (before : List Char) :
    Text.Lowercase.after before text = small := by
  induction text generalizing small before with
  | nil =>
    cases lower
    rfl
  | cons c rest ih =>
    cases lower
    obtain ⟨letter, other⟩ := letter_of_toLower (c := c) rfl (known List.mem_cons_self)
    rw [Text.Lowercase.after, if_neg other, letter,
      ih rfl fun d member => known (List.mem_cons_of_mem _ member)]
    rfl

/-- The text of a truth value stands for a truth value. -/
theorem booleanValue_of_truth {word : String} (truth : BooleanText word.toList) :
    ∃ b, booleanValue word = .boolean b := by
  rcases truth with yes | no
  · have lower : Text.lowercase word = "true" := by
      rw [Text.lowercase, lowercase_of_toLower yes (by decide)]
      rfl
    exact ⟨true, by simp only [booleanValue, lower]⟩
  · have lower : Text.lowercase word = "false" := by
      rw [Text.lowercase, lowercase_of_toLower no (by decide)]
      rfl
    exact ⟨false, by simp only [booleanValue, lower]⟩

theorem Literal.value_written {literal : Literal} (formed : literal.WellFormed) :
    literal.value.Written := by
  cases literal with
  | text value => trivial
  | number digits => exact formed
  | boolean word =>
    obtain ⟨b, same⟩ := booleanValue_of_truth formed
    rw [Literal.value, same]
    trivial

theorem Filter.comparisons_written {test : Filter}
    (formed : ∀ value ∈ test.values, value.WellFormed) :
    ∀ value ∈ test.comparisons, value.Written := by
  intro value member
  obtain ⟨sorted, -⟩ := List.mem_filter.mp member
  obtain ⟨literal, found, rfl⟩ := List.mem_map.mp sorted
  obtain ⟨rank, -, found⟩ := List.mem_flatMap.mp found
  exact Literal.value_written (formed literal (List.mem_filter.mp found).1)

/-! ## The steps of a tree are arranged -/

variable (aggregate : Bool)

theorem goes_storeSteps (stored : Bool) (node : String) (around : List (Opener × String)) :
    Path (Goes aggregate) (.body node around) (storeSteps stored) (.body node around) := by
  cases stored with
  | false => exact rfl
  | true => exact path_single .store

mutual

/-- Behind a clause everything is as it was in front of it. -/
theorem Clause.goes : ∀ (clause : Clause) (node : String) (around : List (Opener × String)),
    clause.WellFormed →
    Path (Goes aggregate) (.body node around) (clause.steps node) (.body node around)
  | .filter _, _, _, formed => path_single (.filter (Filter.comparisons_written formed))
  | .block negated inner, node, around, formed => by
    obtain ⟨last, statement⟩ := inner.goes node [] ((.block negated, node) :: around) formed
    have closed := statement.append (path_single .whereClose)
    exact Path.cons .whereOpen (Path.cons .startInstance closed)

theorem Clause.goesList : ∀ (clauses : List Clause) (node : String)
    (around : List (Opener × String)), Clause.WellFormedList clauses →
    Path (Goes aggregate) (.body node around) (Clause.stepsOfList node clauses) (.body node around)
  | [], _, _, _ => rfl
  | clause :: rest, node, around, formed =>
    (clause.goes node around formed.1).append (Clause.goesList rest node around formed.2)

/-- The steps in a vertex apply to that vertex. -/
theorem Vertex.goes : ∀ (vertex : Vertex) (around : List (Opener × String)), vertex.WellFormed →
    Path (Goes aggregate) (.body vertex.label around) vertex.innerSteps (.body vertex.label around)
  | .mk label clauses stored, around, formed =>
    (Clause.goesList clauses label around formed.2).append
      (goes_storeSteps aggregate stored label around)

/-- A hop may lead anywhere, but it closes what it opens. -/
theorem Target.goes : ∀ (target : Target) (node source : String) (labels : List String)
    (around : List (Opener × String)), target.WellFormed →
    ∃ last, Path (Goes aggregate) (.body node around) (target.steps source labels)
      (.body last around)
  | .vertex vertex, _, _, _, around, formed =>
    ⟨vertex.label, Path.cons .edge (vertex.goes around formed)⟩
  | .union first others stored, node, source, labels, around, formed => by
    obtain ⟨last, head⟩ := first.goes source labels ((.union, node) :: around) formed.1
    obtain ⟨last', tail⟩ := Nested.goesOthers others last node source around formed.2
    have closed : Path (Goes aggregate) (.body last' ((.union, node) :: around))
        (.unionClose :: storeSteps stored) (.body node around) :=
      Path.cons .unionClose (goes_storeSteps aggregate stored node around)
    exact ⟨node, Path.cons .unionOpen (Path.cons .startInstance ((head.append tail).append closed))⟩

theorem Hop.goes : ∀ (hop : Hop) (node source : String) (around : List (Opener × String)),
    hop.WellFormed →
    ∃ last, Path (Goes aggregate) (.body node around) (hop.steps source) (.body last around)
  | .mk labels target, node, source, around, formed => target.goes node source labels around formed

theorem Hop.goesList : ∀ (hops : List Hop) (node source : String)
    (around : List (Opener × String)), Hop.WellFormedList hops →
    ∃ last, Path (Goes aggregate) (.body node around) (Hop.stepsOfList source hops)
      (.body last around)
  | [], node, _, _, _ => ⟨node, rfl⟩
  | hop :: rest, node, source, around, formed => by
    obtain ⟨middle, first⟩ := hop.goes node source around formed.1
    obtain ⟨last, others⟩ := Hop.goesList rest middle hop.result around formed.2
    exact ⟨last, first.append others⟩

/-- A nested statement departs by an edge and closes what it opens. -/
theorem Nested.goes : ∀ (statement : Nested) (source : String) (inherited : List String)
    (around : List (Opener × String)), statement.WellFormed →
    ∃ last, Path (Goes aggregate) (.departure around) (statement.steps source inherited)
      (.body last around)
  | .mk labels head hops, source, inherited, around, formed => by
    obtain ⟨last, steps⟩ := Hop.goesList hops head.label head.label around formed.2
    exact ⟨last, Path.cons .departure ((head.goes around formed.1).append steps)⟩

theorem Nested.goesOthers : ∀ (others : List Nested) (node owner source : String)
    (around : List (Opener × String)), Nested.WellFormedList others →
    ∃ last, Path (Goes aggregate) (.body node ((.union, owner) :: around))
      (Nested.stepsOfOthers source others) (.body last ((.union, owner) :: around))
  | [], node, _, _, _, _ => ⟨node, rfl⟩
  | member :: rest, node, owner, source, around, formed => by
    obtain ⟨middle, first⟩ := member.goes source [] ((.union, owner) :: around) formed.1
    obtain ⟨last, others⟩ := Nested.goesOthers rest middle owner source around formed.2
    exact ⟨last, Path.cons .comma (Path.cons .startInstance (first.append others))⟩

end

/-- The steps of a well-formed tree are arranged from beginning to end. -/
theorem goes_steps {query : Query} (formed : query.WellFormed) :
    Path (Goes aggregate) .beginning (query.steps aggregate) .ending := by
  obtain ⟨root, hops, limit⟩ := query
  obtain ⟨root', hops', -⟩ := formed
  obtain ⟨last, steps⟩ := Hop.goesList aggregate hops root.label root.label [] hops'
  have bound : Path (Goes aggregate) (.body last []) (limitSteps limit) (.body last []) := by
    cases limit with
    | none => exact rfl
    | some count => exact path_single .limit
  have body := (((root.goes aggregate [] root').append steps).append bound).append
    (path_single .collect)
  exact Path.cons .start (Path.cons .nodeType body)

end Traversal
