import Traversal.Proofs.Arrangement
import Traversal.Proofs.Translation
import Traversal.Proofs.Verdict

/-! Generated text is unambiguous. At every stage the beginning of the text determines the first
step: a call tells its sort by its name and its arguments tell where they end, and a closing
parenthesis closes what was opened last. So equal texts come from equal steps. -/
namespace Traversal

variable {u v : List Char}

/-! ## Calls of steps -/

/-- The name of a filter's call. -/
def filterFunction (negated : Bool) : List Value → String
  | [] => if negated then "hasNot" else "has"
  | [.boolean _] =>
    if negated then "getVerticesExcludeByBooleanProperty" else "getVerticesByBooleanProperty"
  | _ => if negated then "getVerticesExcludeByProperty" else "getVerticesByProperty"

/-- The name of an edge's call. -/
def edgeFunction (labels : List String) : String :=
  if labels.isEmpty then "createEdgeTraversal" else "createEdgeTraversalWithLabels"

/-- A call with what follows it: the name, the first argument and the rest. -/
def called (function : String) (rest : List Char) : List Char :=
  '.' :: (function.toList ++ '(' :: rest)

theorem filterText_append (key : String) (negated : Bool) (values : List Value) (u : List Char) :
    Step.filterText key negated values ++ u =
      called (filterFunction negated values) (quoteText key ++ (valueTail values ++ ')' :: u)) := by
  rcases values with _ | ⟨value, _ | ⟨second, rest⟩⟩
  · cases negated <;> simp [Step.filterText, filterFunction, called, callText, valueTail]
  · cases value <;> cases negated <;>
      simp [Step.filterText, filterFunction, called, callText, valueTail, Value.text]
  · cases value <;> cases negated <;>
      simp [Step.filterText, filterFunction, called, callText, valueTail]

theorem edgeText_append (source target : String) (labels : List String) (u : List Char) :
    Step.edgeText source target labels ++ u = called (edgeFunction labels)
      (quoteText source ++ (", ".toList ++ (quoteText target ++ (labelTail labels ++ ')' :: u)))) := by
  cases labels <;> simp [Step.edgeText, edgeFunction, called, callText, labelTail]

/-- The names of filter calls in pairs, the second for a negated filter. -/
def filterFunctions : List (String × String) :=
  [("has", "hasNot"),
    ("getVerticesByBooleanProperty", "getVerticesExcludeByBooleanProperty"),
    ("getVerticesByProperty", "getVerticesExcludeByProperty")]

/-- What holds of the names of filter calls holds of the name of a filter's call. -/
theorem filterFunction_holds (property : Bool → String → Prop)
    (all : ∀ pair ∈ filterFunctions, property false pair.1 ∧ property true pair.2)
    (negated : Bool) (values : List Value) :
    property negated (filterFunction negated values) := by
  have named : ∃ pair ∈ filterFunctions,
      filterFunction false values = pair.1 ∧ filterFunction true values = pair.2 := by
    rcases values with _ | ⟨_ | _ | _, _ | _⟩ <;> simp [filterFunctions, filterFunction]
  obtain ⟨pair, member, plain, other⟩ := named
  cases negated with
  | false =>
    rw [plain]
    exact (all pair member).1
  | true =>
    rw [other]
    exact (all pair member).2

theorem limitText_append (count : Nat) (u : List Char) : (Step.limit count).text ++ u =
    called "limit" ((toString count).toList ++ ')' :: u) := by
  change callText "limit" [(toString count).toList] ++ u = _
  simp [callText, called]

theorem nodeTypeText_append (label : String) (u : List Char) : (Step.nodeType label).text ++ u =
    called "getVerticesByProperty"
      (quoteText Step.nodeTypeKey ++ (", ".toList ++ (quoteText label ++ ')' :: u))) := by
  change callText "getVerticesByProperty" [quoteText Step.nodeTypeKey, quoteText label] ++ u = _
  simp [callText, called]

theorem filterFunction_free (negated : Bool) (values : List Value) :
    '(' ∉ (filterFunction negated values).toList :=
  filterFunction_holds (fun _ name => '(' ∉ name.toList) (by decide) negated values

/-- The name of a filter's call tells whether the filter is negated. -/
theorem filterFunction_negated (negated : Bool) (values : List Value) :
    decide (filterFunction negated values ∈ filterFunctions.map Prod.snd) = negated :=
  filterFunction_holds (fun negated name => decide (name ∈ filterFunctions.map Prod.snd) = negated)
    (by decide) negated values

theorem edgeFunction_free (labels : List String) : '(' ∉ (edgeFunction labels).toList := by
  rw [edgeFunction]
  split <;> decide

theorem edgeFunction_head (labels : List String) :
    ∃ tail, (edgeFunction labels).toList = 'c' :: tail := by
  rw [edgeFunction]
  split
  · exact ⟨"reateEdgeTraversal".toList, by decide⟩
  · exact ⟨"reateEdgeTraversalWithLabels".toList, by decide⟩

theorem called_unique {function function' : String} (free : '(' ∉ function.toList)
    (free' : '(' ∉ function'.toList) (same : called function u = called function' v) :
    function = function' ∧ u = v := by
  obtain ⟨names, rest⟩ := cut_unique free free' (List.cons.inj same).2
  exact ⟨String.toList_inj.mp names, rest⟩

/-! ## Steps of one sort -/

theorem filterText_unique {key key' : String} {negated negated' : Bool} {values values' : List Value}
    (written : ∀ value ∈ values, value.Written) (written' : ∀ value ∈ values', value.Written)
    (same : Step.filterText key negated values ++ u = Step.filterText key' negated' values' ++ v) :
    key = key' ∧ negated = negated' ∧ values = values' ∧ u = v := by
  rw [filterText_append, filterText_append] at same
  obtain ⟨functions, rest⟩ := called_unique (filterFunction_free negated values)
    (filterFunction_free negated' values') same
  obtain ⟨rfl, tails⟩ := quoteText_unique rest
  obtain ⟨rfl, behind⟩ := valueTail_unique written written' tails
  refine ⟨rfl, ?_, rfl, behind⟩
  rw [← filterFunction_negated negated values, functions, filterFunction_negated]

theorem edgeText_unique {source source' target target' : String} {labels labels' : List String}
    (same : Step.edgeText source target labels ++ u = Step.edgeText source' target' labels' ++ v) :
    source = source' ∧ target = target' ∧ labels = labels' ∧ u = v := by
  rw [edgeText_append, edgeText_append] at same
  obtain ⟨-, rest⟩ := called_unique (edgeFunction_free labels) (edgeFunction_free labels') same
  obtain ⟨rfl, targets⟩ := quoteText_unique rest
  obtain ⟨rfl, tails⟩ := quoteText_unique (List.append_cancel_left targets)
  obtain ⟨rfl, behind⟩ := labelTail_unique tails
  exact ⟨rfl, rfl, rfl, behind⟩

/-! ## Sorts of steps -/

/-- The sorts of steps in a statement, as far as their text tells them at once. -/
inductive Kind
  | filter
  | edge
  | store
  | block
  | union
  | limit
  | collect
  | comma
  | close
  deriving DecidableEq

/-- The sort of a step in a statement. The steps that close a union or a block are of one sort. -/
def Step.kind : Step → Kind
  | .filter _ _ _ _ => .filter
  | .edge _ _ _ => .edge
  | .store => .store
  | .whereOpen _ => .block
  | .unionOpen => .union
  | .limit _ => .limit
  | .collect _ => .collect
  | .comma => .comma
  | _ => .close

/-- The sort of the step that makes a call. -/
def kindOfCall (function : String) : Kind :=
  if function ∈ ["createEdgeTraversal", "createEdgeTraversalWithLabels"] then .edge
  else if function = "store" then .store
  else if function = "where" then .block
  else if function = "union" then .union
  else if function = "limit" then .limit
  else if function = "cap" then .collect
  else .filter

/-- The sort of the step with which a text begins. -/
def kindOfText : List Char → Kind
  | '.' :: rest => kindOfCall (String.ofList (rest.takeWhile (· != '(')))
  | ',' :: _ => .comma
  | _ => .close

theorem kindOfText_called {function : String} (free : '(' ∉ function.toList) (rest : List Char) :
    kindOfText (called function rest) = kindOfCall function := by
  have name : (function.toList ++ '(' :: rest).takeWhile (· != '(') = function.toList := by
    rw [List.takeWhile_append_of_pos fun c member => by
      simp only [bne_iff_ne]
      rintro rfl
      exact free member]
    simp
  rw [called, kindOfText, name, String.ofList_toList]

/-- The text of a step in a statement tells the sort of the step. -/
theorem kindOfText_step {aggregate : Bool} {node : String} {around : List (Opener × String)}
    {step : Step} {next : Stage} (goes : Goes aggregate (.body node around) step next)
    (u : List Char) : kindOfText (step.text ++ u) = step.kind := by
  cases goes with
  | @filter _ key negated values =>
    have kind : kindOfCall (filterFunction negated values) = .filter :=
      filterFunction_holds (fun _ name => kindOfCall name = .filter) (by decide) negated values
    change kindOfText (Step.filterText key negated values ++ u) = .filter
    rw [filterText_append, kindOfText_called (filterFunction_free negated values), kind]
  | @edge _ source target labels =>
    change kindOfText (Step.edgeText source target labels ++ u) = .edge
    rw [edgeText_append, kindOfText_called (edgeFunction_free labels)]
    cases labels <;> rfl
  | store =>
    have call : Step.store.text ++ u = called "store" (quoteText Step.storeKey ++ ')' :: u) := by
      change callText "store" [quoteText Step.storeKey] ++ u = _
      simp [callText, called]
    rw [call, kindOfText_called (by decide)]
    rfl
  | @whereOpen _ negated =>
    have call : ∃ rest, (Step.whereOpen negated).text ++ u = called "where" rest := by
      cases negated <;> exact ⟨_, rfl⟩
    obtain ⟨rest, call⟩ := call
    rw [call, kindOfText_called (by decide)]
    rfl
  | @whereClose _ _ negated => cases negated <;> rfl
  | unionOpen =>
    have call : Step.unionOpen.text ++ u = called "union" u := rfl
    rw [call, kindOfText_called (by decide)]
    rfl
  | comma => rfl
  | unionClose => rfl
  | @limit _ count =>
    rw [limitText_append, kindOfText_called (by decide)]
    rfl
  | collect =>
    have call : ∃ rest, (Step.collect aggregate).text ++ u = called "cap" rest := by
      cases aggregate <;> exact ⟨_, rfl⟩
    obtain ⟨rest, call⟩ := call
    rw [call, kindOfText_called (by decide)]
    rfl

/-! ## The first step -/

section

variable {aggregate : Bool} {around : List (Opener × String)} {steps steps' : List Step}

/-- A nested statement begins with an instance from which an edge departs. -/
theorem text_of_statement (path : Path (Goes aggregate) (.statement around) steps .ending) :
    ∃ more, steps.flatMap Step.text = "builder.newInstance()".toList ++ '.' :: 'c' :: more := by
  cases steps with
  | nil => cases path
  | cons first rest =>
    obtain ⟨next, goes, path⟩ := path
    cases goes with
    | startInstance =>
      cases rest with
      | nil => cases path
      | cons second rest =>
        obtain ⟨next', goes', -⟩ := path
        cases goes' with
        | @departure source target labels =>
          obtain ⟨tail, name⟩ := edgeFunction_head labels
          have edge : (Step.edge source target labels).text ++ rest.flatMap Step.text = _ :=
            edgeText_append source target labels _
          rw [called, name, List.cons_append] at edge
          rw [List.flatMap_cons, List.flatMap_cons, edge]
          exact ⟨_, rfl⟩

/-- A negated block opens with an instance too, but no edge departs from it. -/
theorem negated_whereOpen_unlike (path : Path (Goes aggregate) (.statement around) steps .ending) :
    (Step.whereOpen false).text ++ steps.flatMap Step.text ≠ (Step.whereOpen true).text ++ u := by
  have instance_ : (Step.whereOpen true).text =
      (Step.whereOpen false).text ++ ("builder.newInstance()".toList ++ ".not(".toList) := rfl
  obtain ⟨more, begun⟩ := text_of_statement path
  intro same
  rw [begun, instance_, List.append_assoc, List.append_assoc] at same
  have behind := List.append_cancel_left (List.append_cancel_left same)
  cases behind

/-- In a statement the text determines the first step: its sort by how it begins, its arguments by
where they end, and what it closes by what was opened last. -/
theorem body_step_unique {node : String} {next next' : Stage} {step step' : Step}
    (goes : Goes aggregate (.body node around) step next)
    (goes' : Goes aggregate (.body node around) step' next')
    (path : Path (Goes aggregate) next steps .ending)
    (path' : Path (Goes aggregate) next' steps' .ending)
    (same : step.text ++ steps.flatMap Step.text = step'.text ++ steps'.flatMap Step.text) :
    step = step' ∧ steps.flatMap Step.text = steps'.flatMap Step.text := by
  have kinds : step.kind = step'.kind := by
    rw [← kindOfText_step goes, same, kindOfText_step goes']
  cases goes with
  | filter written =>
    cases goes' with
    | filter written' =>
      obtain ⟨rfl, rfl, rfl, rest⟩ := filterText_unique written written' same
      exact ⟨rfl, rest⟩
    | _ => cases kinds
  | edge =>
    cases goes' with
    | edge =>
      obtain ⟨rfl, rfl, rfl, rest⟩ := edgeText_unique same
      exact ⟨rfl, rest⟩
    | _ => cases kinds
  | store =>
    cases goes' with
    | store => exact ⟨rfl, List.append_cancel_left same⟩
    | _ => cases kinds
  | @whereOpen _ negated =>
    cases goes' with
    | @whereOpen _ negated' =>
      cases negated <;> cases negated'
      · exact ⟨rfl, List.append_cancel_left same⟩
      · exact absurd same (negated_whereOpen_unlike path)
      · exact absurd same.symm (negated_whereOpen_unlike path')
      · exact ⟨rfl, List.append_cancel_left same⟩
    | _ => cases kinds
  | whereClose =>
    cases goes' with
    | whereClose => exact ⟨rfl, List.append_cancel_left same⟩
    | _ => cases kinds
  | unionOpen =>
    cases goes' with
    | unionOpen => exact ⟨rfl, List.append_cancel_left same⟩
    | _ => cases kinds
  | comma =>
    cases goes' with
    | comma => exact ⟨rfl, List.append_cancel_left same⟩
    | _ => cases kinds
  | unionClose =>
    cases goes' with
    | unionClose => exact ⟨rfl, List.append_cancel_left same⟩
    | _ => cases kinds
  | @limit _ count =>
    cases goes' with
    | @limit _ count' =>
      have digits : called "limit" _ = called "limit" _ :=
        (limitText_append count _).symm.trans (same.trans (limitText_append count' _))
      obtain ⟨rfl, rest⟩ := count_unique (by decide) (called_unique (by decide) (by decide) digits).2
      exact ⟨rfl, rest⟩
    | _ => cases kinds
  | collect =>
    cases goes' with
    | collect => exact ⟨rfl, List.append_cancel_left same⟩
    | _ => cases kinds

/-- At every stage the text determines the first step. -/
theorem first_step_unique {stage next next' : Stage} {step step' : Step}
    (goes : Goes aggregate stage step next) (goes' : Goes aggregate stage step' next')
    (path : Path (Goes aggregate) next steps .ending)
    (path' : Path (Goes aggregate) next' steps' .ending)
    (same : step.text ++ steps.flatMap Step.text = step'.text ++ steps'.flatMap Step.text) :
    step = step' ∧ steps.flatMap Step.text = steps'.flatMap Step.text := by
  cases stage with
  | beginning =>
    cases goes
    cases goes'
    exact ⟨rfl, List.append_cancel_left same⟩
  | root =>
    cases goes with
    | @nodeType label =>
      cases goes' with
      | @nodeType label' =>
        have calls : called "getVerticesByProperty" _ = called "getVerticesByProperty" _ :=
          (nodeTypeText_append label _).symm.trans (same.trans (nodeTypeText_append label' _))
        have arguments := (called_unique (by decide) (by decide) calls).2
        have labels := (quoteText_unique arguments).2
        obtain ⟨rfl, rest⟩ := quoteText_unique (List.append_cancel_left labels)
        exact ⟨rfl, (List.cons.inj rest).2⟩
  | statement around =>
    cases goes
    cases goes'
    exact ⟨rfl, List.append_cancel_left same⟩
  | departure around =>
    cases goes
    cases goes'
    obtain ⟨rfl, rfl, rfl, rest⟩ := edgeText_unique same
    exact ⟨rfl, rest⟩
  | body node around => exact body_step_unique goes goes' path path' same
  | ending => cases goes

/-- Arranged steps with equal texts are equal. -/
theorem steps_unique {stage : Stage} (path : Path (Goes aggregate) stage steps .ending)
    (path' : Path (Goes aggregate) stage steps' .ending)
    (same : steps.flatMap Step.text = steps'.flatMap Step.text) : steps = steps' := by
  induction steps generalizing stage steps' with
  | nil =>
    cases path
    cases steps' with
    | nil => rfl
    | cons step' rest' =>
      obtain ⟨next', goes', -⟩ := path'
      cases goes'
  | cons step rest ih =>
    obtain ⟨next, goes, path⟩ := path
    cases steps' with
    | nil =>
      cases path'
      cases goes
    | cons step' rest' =>
      obtain ⟨next', goes', path'⟩ := path'
      rw [List.flatMap_cons, List.flatMap_cons] at same
      obtain ⟨rfl, behind⟩ := first_step_unique goes goes' path path' same
      rw [ih path (goes.unique goes' ▸ path') behind]

end

/-! ## Compiled queries -/

open Compiler Compiler.State

/-- A compiled query is the text of all steps that were emitted. -/
theorem text_of_compiled {settings : Settings} {view : Option SchemaView} {events : List Event}
    {result : CompiledQuery} (compiled : compileEvents settings view events = .ok result) :
    result.query.toList =
      (processAll ⟨settings, view⟩ {} events).steps.flatMap Step.text := by
  rw [compileEvents_eq] at compiled
  obtain ⟨-, -, -, rfl⟩ := (verdictOf_eq_ok_iff _).mp compiled
  exact String.toList_ofList

/-- Two accepted texts that are compiled to the same query under the same settings have emitted the
same steps. The schemas may differ. -/
theorem equal_queries_have_equal_steps (settings : Settings) (view view' : Option SchemaView)
    (text text' : String) (events events' : List Event) (result result' : CompiledQuery)
    (accepted : parseEvents text = .ok events) (accepted' : parseEvents text' = .ok events')
    (compiled : compileEvents settings view events = .ok result)
    (compiled' : compileEvents settings view' events' = .ok result')
    (same : result.query = result'.query) :
    (processAll ⟨settings, view⟩ {} events).steps =
      (processAll ⟨settings, view'⟩ {} events').steps := by
  obtain ⟨query, formed, rfl⟩ := wellFormed_of_parseEvents accepted
  obtain ⟨query', formed', rfl⟩ := wellFormed_of_parseEvents accepted'
  have texts := (text_of_compiled compiled).symm.trans
    ((congrArg String.toList same).trans (text_of_compiled compiled'))
  rw [steps_processAll_query, steps_processAll_query] at texts ⊢
  exact steps_unique (goes_steps _ formed) (goes_steps _ formed') texts

theorem differently_written_queries_have_equal_steps :
    ∃ (events events' : List Event) (result : CompiledQuery), events ≠ events' ∧
      parseEvents "a('k', 'k')*" = .ok events ∧ parseEvents "a*\n('\\k')" = .ok events' ∧
      compileEvents {} none events = .ok result ∧ compileEvents {} none events' = .ok result ∧
      result.query = "builder.getVerticesByProperty('aai-node-type', 'a')" ++
        ".has('k').store('x').cap('x').unfold().dedup()" ∧
      (processAll ⟨{}, none⟩ {} events).steps = (processAll ⟨{}, none⟩ {} events').steps := by
  have accepted : parseEvents "a('k', 'k')*" = .ok [.queryEnter, .startEnter, .vertexEnter "a",
      .propertyFilter ⟨"k", false, ["k"], [], []⟩, .vertexExit true (some ["k"]), .startExit,
      .queryExit] := by cbv
  have accepted' : parseEvents "a*\n('\\k')" = .ok [.queryEnter, .startEnter, .vertexEnter "a",
      .propertyFilter ⟨"k", false, [], [], []⟩, .vertexExit true (some ["k"]), .startExit,
      .queryExit] := by cbv
  refine ⟨_, _, ⟨String.join [Step.textOfList [.start, .nodeType "a", .filter "a" "k" false [],
    .store, .collect false]], false, 1, 0⟩, ?_, accepted, accepted', ?_, ?_, ?_, ?_⟩
  · decide
  · rfl
  · rfl
  · decide
  · exact equal_queries_have_equal_steps {} none none _ _ _ _ _ _ accepted accepted' rfl rfl rfl

end Traversal
