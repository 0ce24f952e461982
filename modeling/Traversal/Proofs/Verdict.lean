import Traversal.Proofs.Trace

/-! The verdict on a stream. Three things can be wrong with a compilation at once. Which of them is
reported, and with what, is read off the whole stream: off the marks at its exits, the errors that
its events caused, and the edges and vertices that it counted. -/
namespace Traversal
open Compiler Compiler.State

/-! ## Rules -/

namespace RuleSet

variable (rules : RuleSet) (log : EdgeLog) (count max : Nat)

theorem violations_of_isEmpty (empty : rules.isEmpty = true) : violations rules log count max = [] := by
  obtain ⟨loop, nodes⟩ := rules
  cases loop <;> cases nodes
  · rfl
  all_goals cases empty

/-- An empty rule set is no exception: it has no violations anyway. -/
theorem validate_eq : rules.validate log count max =
    match violations rules log count max with
    | [] => .ok ()
    | broken => .error broken := by
  unfold validate
  by_cases empty : rules.isEmpty = true
  · rw [if_pos empty, violations_of_isEmpty rules log count max empty]
  · exact if_neg empty

end RuleSet

/-- Whether a rule is enabled and the numbers break it. -/
def RuleSet.refuses (rules : RuleSet) : Violation → Bool
  | .loop distinct total => rules.loopCheck && decide (distinct < total / 2)
  | .nodeCount count max => rules.nodeCountCheck && decide (max < count)

/-- What each rule says if it fails, that of the loop rule first. -/
def candidates (log : EdgeLog) (count max : Nat) : List Violation :=
  [.loop (distinctEdges log) log.length, .nodeCount count max]

/-- Each enabled rule that fails is reported once, and no other. -/
theorem violations_eq_filter (rules : RuleSet) (log : EdgeLog) (count max : Nat) :
    violations rules log count max = (candidates log count max).filter rules.refuses := by
  obtain ⟨loop, nodes⟩ := rules
  unfold violations checkLoops checkNodeCount candidates
  cases loop <;> cases nodes <;> by_cases circles : distinctEdges log < log.length / 2 <;>
    by_cases overruns : max < count <;> simp [RuleSet.refuses, circles, overruns]

/-! ## Scopes -/

/-- The text of scopes is the text of their steps. -/
theorem join_text {ε : Type} (scopes : List (Scope ε)) :
    String.join (scopes.map Scope.text) = Step.textOfList (scopes.flatMap Scope.steps) := by
  apply String.toList_injective
  rw [String.toList_join, Step.textOfList, String.toList_ofList, List.flatMap_map,
    List.flatMap_assoc]
  congr
  funext scope
  rw [Scope.text, Step.textOfList, String.toList_ofList]

/-- The scopes give the text of all steps, unless there are errors. -/
theorem assemble_scopes (state : State) :
    Scope.assemble state.scopes.reverse =
      if state.errors = [] then .ok (Step.textOfList state.steps) else .error state.errors := by
  rw [Scope.assemble, join_text, ← State.steps, ← State.errors]
  cases state.errors <;> rfl

/-! ## Precedence -/

/-- The verdict on a compilation that has marked output or not, has caused errors, breaks rules, and
would otherwise give a query. -/
def verdictOf (marked : Bool) (errors : List SchemaError) (broken : List Violation)
    (result : CompiledQuery) : Except Rejection CompiledQuery :=
  match marked, errors, broken with
  | false, _, _ => .error .noOutput
  | true, error :: others, _ => .error (.schema ((error :: others).map SchemaError.message))
  | true, [], violation :: others => .error (.rules (violation :: others))
  | true, [], [] => .ok result

section

variable {marked : Bool} {errors : List SchemaError} {broken : List Violation}
  {result : CompiledQuery}

theorem verdictOf_eq_noOutput_iff :
    verdictOf marked errors broken result = .error .noOutput ↔ ¬ marked = true := by
  cases marked <;> cases errors <;> cases broken <;> simp [verdictOf]

theorem verdictOf_eq_schema_iff (messages : List String) :
    verdictOf marked errors broken result = .error (.schema messages) ↔
      marked = true ∧ errors ≠ [] ∧ messages = errors.map SchemaError.message := by
  cases marked <;> cases errors <;> cases broken <;> simp [verdictOf, eq_comm]

theorem verdictOf_eq_rules_iff (violations : List Violation) :
    verdictOf marked errors broken result = .error (.rules violations) ↔
      marked = true ∧ errors = [] ∧ broken ≠ [] ∧ violations = broken := by
  cases marked <;> cases errors <;> cases broken <;> simp [verdictOf, eq_comm]

theorem verdictOf_eq_ok_iff (query : CompiledQuery) :
    verdictOf marked errors broken result = .ok query ↔
      marked = true ∧ errors = [] ∧ broken = [] ∧ query = result := by
  cases marked <;> cases errors <;> cases broken <;> simp [verdictOf, eq_comm]

end

/-- A compilation is judged by what its last state holds. -/
theorem finish_eq (context : Context) (state : State) :
    finish context state = verdictOf state.outputMarked state.errors
      (violations context.settings.rules state.edgeLog state.nodeCount
        context.settings.maxNodeCount)
      ⟨Step.textOfList state.steps, context.settings.aggregate, state.nodeCount,
        state.edgeLog.length⟩ := by
  rw [finish, assemble_scopes]
  cases state.outputMarked with
  | false => rfl
  | true =>
    cases state.errors with
    | cons error others => rfl
    | nil =>
      simp only [RuleSet.validate_eq]
      cases violations context.settings.rules state.edgeLog state.nodeCount
        context.settings.maxNodeCount <;> rfl

/-! ## Streams -/

section

variable (settings : Settings) (view : Option SchemaView) (events : List Event)

/-- A stream is judged by its exits and by what its events added. -/
theorem compileEvents_eq :
    let context : Context := ⟨settings, view⟩
    let last := processAll context {} events
    let count := events.countP Event.leavesVertex
    compileEvents settings view events =
      verdictOf (events.any Event.marksOutput) (trace caused context {} events)
        ((candidates last.edgeLog count settings.maxNodeCount).filter settings.rules.refuses)
        ⟨Step.textOfList last.steps, settings.aggregate, count,
          last.steps.countP (·.ends?.isSome)⟩ := by
  intro context last count
  have lastErrors : last.errors = trace caused context {} events :=
    errors_processAll context {} events
  have lastCount : last.nodeCount = count := by
    simpa using nodeCount_processAll context {} events
  have lastMark : last.outputMarked = events.any Event.marksOutput :=
    outputMarked_processAll context {} events
  have edges : last.edgeLog.length = last.steps.countP (·.ends?.isSome) := by
    rw [edgeLog_processAll, steps_processAll]
    exact List.length_filterMap_eq_countP
  change finish context last = _
  rw [finish_eq, lastMark, lastErrors, lastCount, violations_eq_filter, edges]

/-- The verdict follows a fixed order of precedence. Without a mark at the exit of a vertex or of a
union it is that there is no output, whatever else is wrong. Otherwise it lists the errors that the
events caused, in their order, if there are any. Otherwise it lists the violations of the enabled
rules that fail. Otherwise it is the text of all steps with the number of vertices left and of edges
followed. -/
theorem verdict_follows_precedence :
    let context : Context := ⟨settings, view⟩
    let last := processAll context {} events
    let marked := ∃ event ∈ events, event.marksOutput = true
    let errors := trace caused context {} events
    let count := events.countP Event.leavesVertex
    let possible := candidates last.edgeLog count settings.maxNodeCount
    let verdict := compileEvents settings view events
    last.errors = errors ∧
      (verdict = .error .noOutput ↔ ¬ marked) ∧
      (∀ messages, verdict = .error (.schema messages) ↔
        marked ∧ last.errors ≠ [] ∧ messages = errors.map SchemaError.message) ∧
      (∀ broken, verdict = .error (.rules broken) ↔
        marked ∧ last.errors = [] ∧
          (∃ violation ∈ possible, settings.rules.refuses violation = true) ∧
          broken = possible.filter settings.rules.refuses) ∧
      (∀ result, verdict = .ok result ↔
        marked ∧ last.errors = [] ∧
          (¬ ∃ violation ∈ possible, settings.rules.refuses violation = true) ∧
          result = ⟨Step.textOfList last.steps, settings.aggregate, count,
            last.steps.countP (·.ends?.isSome)⟩) := by
  intro context last marked errors count possible verdict
  have lastErrors : last.errors = errors := errors_processAll context {} events
  have judged : verdict = verdictOf _ errors _ _ := compileEvents_eq settings view events
  have marks : marked ↔ events.any Event.marksOutput = true := List.any_eq_true.symm
  have refused : (∃ violation ∈ possible, settings.rules.refuses violation = true) ↔
      ¬ possible.filter settings.rules.refuses = [] := by
    simp [List.filter_eq_nil_iff]
  rw [lastErrors, marks, refused, Classical.not_not, judged]
  exact ⟨rfl, verdictOf_eq_noOutput_iff, verdictOf_eq_schema_iff, verdictOf_eq_rules_iff,
    verdictOf_eq_ok_iff⟩

end

/-- One malformed stream with everything wrong: it marks no output, follows an edge that the schema
does not know, and visits too many vertices. As each is put right the next comes to light. -/
theorem malformed_stream_follows_precedence :
    let settings : Settings := { maxNodeCount := 0 }
    let stream (stored : Bool) : List Event := [.vertexEnter "a", .vertexEnter "b",
      .vertexExit stored none]
    compileEvents settings (some Schema.empty.view) (stream false) = .error .noOutput ∧
      compileEvents settings (some Schema.empty.view) (stream true) =
        .error (.schema ["no edge rule between `a` and `b`"]) ∧
      compileEvents settings none (stream true) = .error (.rules [.nodeCount 1 0]) := by
  intro settings stream
  obtain ⟨-, noOutput, -⟩ :=
    verdict_follows_precedence settings (some Schema.empty.view) (stream false)
  obtain ⟨-, -, schema, -⟩ :=
    verdict_follows_precedence settings (some Schema.empty.view) (stream true)
  obtain ⟨-, -, -, rules, -⟩ := verdict_follows_precedence settings none (stream true)
  exact ⟨noOutput.mpr (by decide), (schema _).mpr (by decide), (rules _).mpr (by decide)⟩

end Traversal
