import Mathlib
import Traversal.Main
import Traversal.Proofs.EventLines
import Traversal.Proofs.Layers
import Traversal.Proofs.Locations
import Traversal.Proofs.Verdict

/-! Agreement of the commands. Compiling and checking show one judgement in two ways, and listing events
stops at the first half of it. So the commands fail together and with the same text, as far as they
look, and what is compiled is the stream that is listed. -/
namespace Traversal.Cli
open Layers

variable {files : Files} {environment : Environment} {source : QuerySource} {choices : Choices}

/-! ## One judgement -/

/-- What a query comes to, whichever command asks: a compiled query, or the text of a failure. -/
def judged (files : Files) (environment : Environment) (source : QuerySource) (choices : Choices) :
    Except String CompiledQuery := do
  let prepared ← (prepare files environment source choices).result
  prepared.compiled.mapError prepared.rejected

/-- The output for a compiled query. -/
def shown (json : Bool) (compiled : CompiledQuery) : String :=
  if json then jsonText compiled else compiled.query

theorem runCompile_eq_map (json : Bool) : (runCompile files environment source choices json).result =
    (judged files environment source choices).map (shown json) := by
  unfold runCompile judged
  cases result : (prepare files environment source choices).result with
  | error text =>
    simp only [result]
    rfl
  | ok prepared =>
    simp only [result, bind, Except.bind]
    cases prepared.compiled <;> rfl

theorem runCheck_eq_map : (runCheck files environment source choices).result =
    (judged files environment source choices).map fun _ => "ok" := by
  unfold runCheck judged
  cases result : (prepare files environment source choices).result with
  | error text =>
    simp only [result]
    rfl
  | ok prepared =>
    simp only [result, bind, Except.bind]
    cases prepared.compiled <;> rfl

section

variable {ε α β : Type} {result : Except ε α} {shape : α → β}

theorem map_eq_ok_iff {output : β} :
    result.map shape = .ok output ↔ ∃ value, result = .ok value ∧ output = shape value := by
  cases result <;> simp [Except.map, eq_comm]

theorem map_eq_error_iff {failure : ε} : result.map shape = .error failure ↔ result = .error failure := by
  cases result <;> simp [Except.map]

end

theorem prepare_eq_ok_iff (prepared : Prepared) :
    (prepare files environment source choices).result = .ok prepared ↔
      readQuery files source = .ok prepared.query ∧
        resolve files environment choices = .ok prepared.settings ∧
        loadSchema files choices = .ok prepared.schema := by
  obtain ⟨query, settings, schema⟩ := prepared
  unfold prepare
  cases readQuery files source with
  | error report => simp
  | ok query' =>
    cases resolve files environment choices with
    | error report => simp
    | ok settings' =>
      cases loadSchema files choices with
      | error report => simp
      | ok schema' => simp

theorem compiled_eq_ok_iff (prepared : Prepared) (compiled : CompiledQuery) :
    prepared.compiled = .ok compiled ↔ ∃ events, parseEvents prepared.query.text = .ok events ∧
      compileEvents prepared.settings (prepared.schema.map Schema.view) events = .ok compiled := by
  unfold Prepared.compiled Traversal.compile
  cases parseEvents prepared.query.text <;> simp

/-- A query is compiled if and only if it can be read, settings and schema are there, it parses, and
its stream compiles under them. -/
theorem judged_eq_ok_iff (compiled : CompiledQuery) :
    judged files environment source choices = .ok compiled ↔ ∃ query settings schema events,
      readQuery files source = .ok query ∧ resolve files environment choices = .ok settings ∧
        loadSchema files choices = .ok schema ∧ parseEvents query.text = .ok events ∧
        compileEvents settings (schema.map Schema.view) events = .ok compiled := by
  have mapped (prepared : Prepared) : prepared.compiled.mapError prepared.rejected = .ok compiled ↔
      prepared.compiled = .ok compiled := by
    cases prepared.compiled <;> simp [Except.mapError]
  simp only [judged, bind_eq_ok_iff, mapped, prepare_eq_ok_iff, compiled_eq_ok_iff]
  constructor
  · rintro ⟨⟨query, settings, schema⟩, ⟨read, resolved, loaded⟩, events, parsed, compiles⟩
    exact ⟨query, settings, schema, events, read, resolved, loaded, parsed, compiles⟩
  · rintro ⟨query, settings, schema, events, read, resolved, loaded, parsed, compiles⟩
    exact ⟨⟨query, settings, schema⟩, ⟨read, resolved, loaded⟩, events, parsed, compiles⟩

/-! ## Listing events -/

theorem runEvents_eq_error_iff (failure : String) :
    (runEvents files source).result = .error failure ↔
      (∃ report, readQuery files source = .error report ∧ failure = report.render) ∨
        ∃ query error, readQuery files source = .ok query ∧ parseEvents query.text = .error error ∧
          failure = renderRejection (.parse error.diagnostic) query.text query.name := by
  unfold runEvents
  cases readQuery files source with
  | error report => simp [eq_comm]
  | ok query => cases parsed : parseEvents query.text <;> simp [parsed, eq_comm]

/-- Where settings and schema are there, nothing but the query can be wrong before its stream is
compiled, and that is shown alike. -/
theorem judged_of_runEvents_error {settings : Settings} {schema : Option Schema} {failure : String}
    (resolved : resolve files environment choices = .ok settings)
    (loaded : loadSchema files choices = .ok schema)
    (failed : (runEvents files source).result = .error failure) :
    judged files environment source choices = .error failure := by
  rcases (runEvents_eq_error_iff failure).mp failed with
    ⟨report, unread, rfl⟩ | ⟨query, error, read, unparsed, rfl⟩
  · unfold judged prepare
    rw [unread]
    rfl
  · obtain ⟨prepared, result, rfl⟩ := exists_prepared read ⟨⟨settings, resolved⟩, schema, loaded⟩
    rw [judged, result]
    change prepared.compiled.mapError prepared.rejected = _
    rw [compiled_of_error unparsed]
    rfl

/-- The commands agree. Checking succeeds if and only if compiling does, to text or to JSON, and fails
with the same text. Listing events fails if and only if the query cannot be read or parsed, and then
with the text of compiling, unless that stops at settings or schema. Compiling succeeds if and only if
the stream whose events are listed compiles under the settings and the schema of the run, and shows what
that gives. -/
theorem commands_agree (files : Files) (environment : Environment) (source : QuerySource)
    (choices : Choices) :
    (∀ json, ((∃ output, (runCheck files environment source choices).result = .ok output) ↔
        ∃ output, (runCompile files environment source choices json).result = .ok output) ∧
      ∀ failure, (runCheck files environment source choices).result = .error failure ↔
        (runCompile files environment source choices json).result = .error failure) ∧
    ((∃ failure, (runEvents files source).result = .error failure) ↔
      (∃ report, readQuery files source = .error report) ∨
        ∃ query error, readQuery files source = .ok query ∧ parseEvents query.text = .error error) ∧
    (∀ settings schema, resolve files environment choices = .ok settings →
      loadSchema files choices = .ok schema →
      ∀ failure, (runEvents files source).result = .error failure →
        ∀ json, (runCompile files environment source choices json).result = .error failure) ∧
    ∀ json output, (runCompile files environment source choices json).result = .ok output ↔
      ∃ query settings schema events compiled, readQuery files source = .ok query ∧
        resolve files environment choices = .ok settings ∧ loadSchema files choices = .ok schema ∧
        parseEvents query.text = .ok events ∧
        (runEvents files source).result = .ok ("\n".intercalate (events.map Event.text)) ∧
        compileEvents settings (schema.map Schema.view) events = .ok compiled ∧
        output = if json then jsonText compiled else compiled.query := by
  refine ⟨fun json => ⟨?_, fun failure => ?_⟩, ?_, ?_, fun json output => ?_⟩
  · simp only [runCheck_eq_map, runCompile_eq_map, map_eq_ok_iff]
    constructor
    · rintro ⟨-, compiled, succeeds, -⟩
      exact ⟨_, compiled, succeeds, rfl⟩
    · rintro ⟨-, compiled, succeeds, -⟩
      exact ⟨_, compiled, succeeds, rfl⟩
  · rw [runCheck_eq_map, runCompile_eq_map, map_eq_error_iff, map_eq_error_iff]
  · simp only [runEvents_eq_error_iff]
    constructor
    · rintro ⟨failure, ⟨report, unread, -⟩ | ⟨query, error, read, unparsed, -⟩⟩
      · exact Or.inl ⟨report, unread⟩
      · exact Or.inr ⟨query, error, read, unparsed⟩
    · rintro (⟨report, unread⟩ | ⟨query, error, read, unparsed⟩)
      · exact ⟨_, Or.inl ⟨report, unread, rfl⟩⟩
      · exact ⟨_, Or.inr ⟨query, error, read, unparsed, rfl⟩⟩
  · intro settings schema resolved loaded failure failed json
    rw [runCompile_eq_map, map_eq_error_iff]
    exact judged_of_runEvents_error resolved loaded failed
  · simp only [runCompile_eq_map, map_eq_ok_iff, judged_eq_ok_iff]
    constructor
    · rintro ⟨compiled, ⟨query, settings, schema, events, read, resolved, loaded, parsed, compiles⟩, rfl⟩
      exact ⟨query, settings, schema, events, compiled, read, resolved, loaded, parsed,
        runEvents_of_accepted read parsed, compiles, rfl⟩
    · rintro ⟨query, settings, schema, events, compiled, read, resolved, loaded, parsed, -, compiles, rfl⟩
      exact ⟨compiled, ⟨query, settings, schema, events, read, resolved, loaded, parsed, compiles⟩, rfl⟩

/-- A query that compiles is valid, and its stream is what is compiled. One that does not parse fails
alike in every command. -/
theorem commands_agree_on_a_query_and_a_slip :
    let files : Files := fun _ => .error .missing
    let environment : Environment := fun _ => none
    let right : QuerySource := ⟨some "a* > b", none⟩
    let wrong : QuerySource := ⟨some "a ]", none⟩
    let events : List Event := [.queryEnter, .startEnter, .vertexEnter "a", .vertexExit true (some []),
      .vertexEnter "b", .vertexExit false none, .startExit, .queryExit]
    (∃ compiled, compileEvents {} none events = .ok compiled ∧
      (runCompile files environment right {} false).result = .ok compiled.query) ∧
    (∃ output, (runCheck files environment right {}).result = .ok output) ∧
    ∃ failure, (runEvents files wrong).result = .error failure ∧
      (runCompile files environment wrong {} true).result = .error failure ∧
      (runCheck files environment wrong {}).result = .error failure := by
  intro files environment right wrong events
  obtain ⟨checks, -, -, compiles⟩ := commands_agree files environment right {}
  obtain ⟨checks', fails, alike, -⟩ := commands_agree files environment wrong {}
  have parsed : parseEvents "a* > b" = .ok events := by cbv
  have unparsed : parseEvents "a ]" = .error (.unexpected ['a', ' ']
      [.store, .negation, .negation, .store, .hop, .limit, .endOfQuery]) := by cbv
  obtain ⟨compiled, finished⟩ : ∃ compiled, compileEvents {} none events = .ok compiled := by
    simp only [compileEvents_eq, verdictOf_eq_ok_iff]
    exact ⟨_, by decide, by decide, by decide, rfl⟩
  have shown := (compiles false _).mpr ⟨⟨"a* > b", "<query>"⟩, {}, none, events, compiled, rfl, rfl, rfl,
    parsed, runEvents_of_accepted rfl parsed, finished, rfl⟩
  obtain ⟨failure, failed⟩ := fails.mpr (Or.inr ⟨⟨"a ]", "<query>"⟩, _, rfl, unparsed⟩)
  have failed' := alike {} none rfl rfl failure failed true
  exact ⟨⟨compiled, finished, shown⟩, (checks false).1.mpr ⟨_, shown⟩, failure, failed, failed',
    ((checks' true).2 failure).mpr failed'⟩

end Traversal.Cli
