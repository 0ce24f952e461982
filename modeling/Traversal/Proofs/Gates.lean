import Traversal.Proofs.Translation
import Traversal.Proofs.Verdict

/-! Settings and schemas only gate. Two compilations of one stream, under whatever settings and
schemas, keep abreast: their states differ at most in what the scopes hold, and there in nothing but
the errors and the flag of the collecting step. So a gate that is opened changes no query. -/
namespace Traversal
open Compiler Compiler.State

/-- The step with its flag set, if it collects the output. Every other step stays as it is. -/
def Step.withAggregate (aggregate : Bool) : Step → Step
  | .collect _ => .collect aggregate
  | step => step

/-- Two states that differ at most in what their scopes hold. -/
def Compiler.Abreast (left right : State) : Prop := ∃ scopes, right = { left with scopes := scopes }

/-- A context that objects to nothing that another lets pass, and that asks for the same output. -/
structure Compiler.Lenient (strict mild : Context) : Prop where
  edges : ∀ source target labels,
    strict.edgeErrors source target labels = [] → mild.edgeErrors source target labels = []
  keys : ∀ type keys, strict.keyErrors type keys = [] → mild.keyErrors type keys = []
  loop : mild.settings.rules.loopCheck = true → strict.settings.rules.loopCheck = true
  nodeCount :
    mild.settings.rules.nodeCountCheck = true → strict.settings.rules.nodeCountCheck = true
  ceiling : strict.settings.maxNodeCount ≤ mild.settings.maxNodeCount
  aggregate : mild.settings.aggregate = strict.settings.aggregate

/-! ## Two compilations of one stream -/

section

variable {left right : State}

theorem Compiler.Abreast.refl (state : State) : Abreast state state := ⟨state.scopes, rfl⟩

/-- One event keeps two compilations abreast, whatever each objects to. -/
theorem Compiler.Abreast.process (abreast : Abreast left right) (context context' : Context)
    (event : Event) : Abreast (process context left event) (process context' right event) := by
  obtain ⟨scopes, rfl⟩ := abreast
  cases event with
  | vertexEnter label =>
    simp only [State.process, enterVertex, State.current]
    cases left.nodes.head? <;> exact ⟨_, rfl⟩
  | propertyFilter filter =>
    simp only [State.process, applyFilter, State.current]
    cases left.nodes.head? <;> exact ⟨_, rfl⟩
  | nestedExit count =>
    rw [State.process, State.process, exitNested_eq, exitNested_eq]
    exact ⟨_, rfl⟩
  | _ => exact ⟨_, rfl⟩

theorem Compiler.Abreast.processAll (abreast : Abreast left right) (context context' : Context)
    (events : List Event) :
    Abreast (processAll context left events) (processAll context' right events) := by
  induction events generalizing left right with
  | nil => exact abreast
  | cons event rest ih => exact ih (abreast.process context context' event)

/-- Compilations that are abreast emit the same steps, apart from the flag. -/
theorem emitted_abreast (abreast : Abreast left right) (context context' : Context)
    (event : Event) :
    emitted context' right event =
      (emitted context left event).map (Step.withAggregate context'.settings.aggregate) := by
  obtain ⟨scopes, rfl⟩ := abreast
  cases event with
  | vertexEnter label | propertyFilter filter =>
    simp only [emitted, State.current]
    cases left.nodes.head? <;> rfl
  | vertexExit stored keys | unionExit stored => cases stored <;> rfl
  | _ => rfl

theorem trace_emitted_abreast (abreast : Abreast left right) (context context' : Context)
    (events : List Event) :
    trace emitted context' right events =
      (trace emitted context left events).map
        (Step.withAggregate context'.settings.aggregate) := by
  induction events generalizing left right with
  | nil => rfl
  | cons event rest ih =>
    rw [trace, trace, emitted_abreast abreast context context' event,
      ih (abreast.process context context' event), List.map_append]

/-- What causes no error in a strict context causes none in a lenient one. -/
theorem caused_abreast {strict mild : Context} (lenient : Lenient strict mild)
    (abreast : Abreast left right) {event : Event} (passed : caused strict left event = []) :
    caused mild right event = [] := by
  obtain ⟨scopes, rfl⟩ := abreast
  cases event with
  | vertexEnter label =>
    simp only [caused, State.current] at passed ⊢
    cases current : left.nodes.head? with
    | none => rfl
    | some source =>
      rw [current] at passed
      exact lenient.edges _ _ _ passed
  | vertexExit stored keys =>
    cases keys with
    | none => rfl
    | some keys =>
      simp only [caused] at passed ⊢
      cases opened : left.openVertices.head? with
      | none => rfl
      | some label =>
        rw [opened] at passed
        exact lenient.keys _ _ passed
  | _ => rfl

theorem trace_caused_abreast {strict mild : Context} (lenient : Lenient strict mild)
    (abreast : Abreast left right) {events : List Event}
    (passed : trace caused strict left events = []) : trace caused mild right events = [] := by
  induction events generalizing left right with
  | nil => rfl
  | cons event rest ih =>
    obtain ⟨first, others⟩ := List.append_eq_nil_iff.mp passed
    rw [trace, caused_abreast lenient abreast first,
      ih (abreast.process strict mild event) others]
    rfl

end

/-! ## Two verdicts on one stream -/

/-- The steps of two compilations of one stream are the same, apart from the flag. -/
theorem steps_of_contexts (context context' : Context) (events : List Event) :
    (processAll context' {} events).steps =
      (processAll context {} events).steps.map
        (Step.withAggregate context'.settings.aggregate) := by
  rw [steps_processAll, steps_processAll]
  exact trace_emitted_abreast (.refl {}) context context' events

/-- They are the same altogether if the flags are. -/
theorem steps_of_aggregate {context context' : Context}
    (same : context'.settings.aggregate = context.settings.aggregate) (events : List Event) :
    (processAll context' {} events).steps = (processAll context {} events).steps := by
  rw [steps_of_contexts context context', same, ← steps_of_contexts context context]

/-- The logs of edges are the same. -/
theorem edgeLog_of_contexts (context context' : Context) (events : List Event) :
    (processAll context' {} events).edgeLog = (processAll context {} events).edgeLog := by
  obtain ⟨scopes, same⟩ := (Abreast.refl {}).processAll context context' events
  rw [same]

theorem refused_of_lenient {strict mild : Context} (lenient : Lenient strict mild) {log : EdgeLog}
    {count : Nat} (kept : (candidates log count strict.settings.maxNodeCount).filter
      strict.settings.rules.refuses = []) :
    (candidates log count mild.settings.maxNodeCount).filter mild.settings.rules.refuses = [] := by
  have ceiling := lenient.ceiling
  simp only [candidates, List.filter_eq_nil_iff, List.mem_cons, List.not_mem_nil, or_false,
    forall_eq_or_imp, forall_eq, RuleSet.refuses, Bool.and_eq_true, decide_eq_true_eq,
    not_and] at kept ⊢
  exact ⟨fun enabled => kept.1 (lenient.loop enabled),
    fun enabled exceeds => kept.2 (lenient.nodeCount enabled) (Nat.lt_of_le_of_lt ceiling exceeds)⟩

/-- A stream that is compiled in a strict context is compiled to the same query in a lenient one. -/
theorem compileEvents_of_lenient {strict mild : Context} (lenient : Lenient strict mild)
    {events : List Event} {result : CompiledQuery}
    (compiled : compileEvents strict.settings strict.view events = .ok result) :
    compileEvents mild.settings mild.view events = .ok result := by
  rw [compileEvents_eq, verdictOf_eq_ok_iff] at compiled ⊢
  obtain ⟨marked, passed, kept, rfl⟩ := compiled
  have same : (processAll mild {} events).steps = (processAll strict {} events).steps :=
    steps_of_aggregate lenient.aggregate events
  have log : (processAll mild {} events).edgeLog = (processAll strict {} events).edgeLog :=
    edgeLog_of_contexts strict mild events
  refine ⟨marked, trace_caused_abreast lenient (.refl {}) passed, ?_, ?_⟩
  · exact log ▸ refused_of_lenient lenient kept
  · change _ = CompiledQuery.mk (Step.textOfList (processAll mild {} events).steps) _ _ _
    rw [same, lenient.aggregate]

/-! ## Opening gates -/

/-- Ways to refuse less: the schema may go, the check of keys may be switched off, rules may be
disabled, and the ceiling may be raised. -/
structure Relaxes (settings settings' : Settings) (view view' : Option SchemaView) : Prop where
  view : view' = view ∨ view' = none
  keys : settings'.validateStructure = true → settings.validateStructure = true
  loop : settings'.rules.loopCheck = true → settings.rules.loopCheck = true
  nodeCount : settings'.rules.nodeCountCheck = true → settings.rules.nodeCountCheck = true
  ceiling : settings.maxNodeCount ≤ settings'.maxNodeCount
  aggregate : settings'.aggregate = settings.aggregate

theorem lenient_of_relaxes {settings settings' : Settings} {view view' : Option SchemaView}
    (relaxes : Relaxes settings settings' view view') :
    Lenient ⟨settings, view⟩ ⟨settings', view'⟩ where
  edges source target labels passed := by
    obtain rfl | rfl := relaxes.view
    · exact passed
    · rfl
  keys type keys passed := by
    have asked := relaxes.keys
    simp only [Context.keyErrors] at passed ⊢
    obtain rfl | rfl := relaxes.view <;> cases checked : settings'.validateStructure
    · rfl
    · rw [asked checked] at passed
      exact passed
    · rfl
    · rfl
  loop := relaxes.loop
  nodeCount := relaxes.nodeCount
  ceiling := relaxes.ceiling
  aggregate := relaxes.aggregate

/-- The text of a query tree's steps ends differently if the output is not aggregated. -/
theorem textOfList_of_tree (query : Query) :
    Step.textOfList (query.steps false) =
      Step.textOfList (query.steps true) ++ ".unfold().dedup()" := by
  apply String.toList_injective
  simp only [Query.steps, Step.textOfList, String.toList_append, String.toList_ofList,
    List.flatMap_cons, List.flatMap_append, List.flatMap_nil, List.append_nil, List.append_assoc]
  rfl

/-- Rules, ceilings and schemas never change what is generated. Two compilations of one stream that
succeed count the same, and their steps differ in the flag of the collecting step alone; so does the
text of an accepted query. And a stream that is compiled stays so, to the same query, when any gates
are opened. -/
theorem gates_never_change_the_query (events : List Event) (settings settings' : Settings)
    (view view' : Option SchemaView) :
    (∀ result result', compileEvents settings view events = .ok result →
      compileEvents settings' view' events = .ok result' →
        result'.nodeCount = result.nodeCount ∧ result'.edgeCount = result.edgeCount ∧
          (processAll ⟨settings', view'⟩ {} events).steps =
            (processAll ⟨settings, view⟩ {} events).steps.map
              (Step.withAggregate settings'.aggregate) ∧
          (settings'.aggregate = settings.aggregate → result'.query = result.query) ∧
          ∀ text, parseEvents text = .ok events → settings.aggregate = true →
            settings'.aggregate = false → result'.query = result.query ++ ".unfold().dedup()") ∧
      (Relaxes settings settings' view view' → ∀ result,
        compileEvents settings view events = .ok result →
          compileEvents settings' view' events = .ok result) := by
  refine ⟨fun result result' compiled compiled' => ?_, fun relaxes result compiled =>
    compileEvents_of_lenient (lenient_of_relaxes relaxes) compiled⟩
  let context : Context := ⟨settings, view⟩
  let context' : Context := ⟨settings', view'⟩
  rw [compileEvents_eq, verdictOf_eq_ok_iff] at compiled compiled'
  obtain ⟨-, -, -, rfl⟩ := compiled
  obtain ⟨-, -, -, rfl⟩ := compiled'
  have edges : (processAll context' {} events).steps.countP (·.ends?.isSome) =
      (processAll context {} events).steps.countP (·.ends?.isSome) := by
    rw [steps_of_contexts context context', List.countP_map]
    congr 1
    funext step
    cases step <;> rfl
  refine ⟨rfl, edges, steps_of_contexts context context' events, fun same => ?_,
    fun text accepted unset set => ?_⟩
  · exact congrArg Step.textOfList (steps_of_aggregate same events)
  · obtain ⟨query, -, rfl⟩ := parse_of_parseEvents accepted
    change Step.textOfList (processAll context' {} query.events).steps =
      Step.textOfList (processAll context {} query.events).steps ++ _
    rw [steps_processAll_query, steps_processAll_query]
    exact set ▸ unset ▸ textOfList_of_tree query

theorem block_query_is_the_same_behind_open_gates :
    let schema := ((Schema.empty.withNode "a" ["k"]).withEdge "a" "b" "m" .tree).withEdge
      "c" "a" "n" .cousin
    let strict : Settings := { maxNodeCount := 3, validateStructure := true, aggregate := true }
    let open_ : Settings := { rules := .none, maxNodeCount := 5, aggregate := true }
    let events : List Event := [.queryEnter, .startEnter, .vertexEnter "a",
      .propertyFilter ⟨"k", false, [], [], []⟩, .whereEnter false, .nestedEnter, .edgeFilter ["m"],
      .vertexEnter "b", .vertexExit false none, .nestedExit 1, .whereExit false,
      .vertexExit true (some ["k"]), .vertexEnter "c", .vertexExit false none, .startExit,
      .queryExit]
    ∃ result result', parseEvents "a*('k')(> ('m') b) > c" = .ok events ∧
      compileEvents strict (some schema.view) events = .ok result ∧
      compileEvents open_ none events = .ok result ∧
      compileEvents {} none events = .ok result' ∧
      result'.nodeCount = result.nodeCount ∧ result'.edgeCount = result.edgeCount ∧
      result'.query = result.query ++ ".unfold().dedup()" := by
  intro schema strict open_ events
  have accepted : parseEvents "a*('k')(> ('m') b) > c" = .ok events := by cbv
  obtain ⟨agree, -⟩ := gates_never_change_the_query events strict {} (some schema.view) none
  obtain ⟨-, preserve⟩ := gates_never_change_the_query events strict open_ (some schema.view) none
  have compiled : compileEvents strict (some schema.view) events = .ok
      ⟨Step.textOfList (processAll ⟨strict, some schema.view⟩ {} events).steps, true, 3, 2⟩ := by
    rw [compileEvents_eq, verdictOf_eq_ok_iff]
    exact ⟨by decide, by decide, by decide, rfl⟩
  have compiled' : compileEvents {} none events = .ok
      ⟨Step.textOfList (processAll ⟨{}, none⟩ {} events).steps, false, 3, 2⟩ := by
    rw [compileEvents_eq, verdictOf_eq_ok_iff]
    exact ⟨by decide, by decide, by decide, rfl⟩
  have relaxes : Relaxes strict open_ (some schema.view) none := by
    constructor <;> decide
  obtain ⟨nodes, edges, -, -, text⟩ := agree _ _ compiled compiled'
  exact ⟨_, _, accepted, compiled, preserve relaxes _ compiled, compiled', nodes, edges,
    text _ accepted rfl rfl⟩

end Traversal
