import Traversal.Compiler.Machine

/-! What single operations do to the steps and the errors so far. Both are judged by the list of all
of them, whichever scope holds them; no operation moves or drops what is there already. -/
namespace Traversal.Compiler.State

/-- An emitted step comes last, even if no scope was open. -/
@[simp] theorem steps_emit (step : Step) (state : State) :
    (state.emit step).steps = state.steps ++ [step] := by
  unfold steps emit
  cases state.scopes with
  | nil => rfl
  | cons top rest => simp [Scope.changeTop, Scope.emit]

@[simp] theorem steps_report (errors : List SchemaError) (state : State) :
    (state.report errors).steps = state.steps := by
  unfold steps report
  cases errors with
  | nil => rfl
  | cons error others =>
    cases state.scopes with
    | nil => rfl
    | cons top rest => simp [Scope.changeTop, Scope.report]

@[simp] theorem steps_openScope (first : List Step) (state : State) :
    (state.openScope first).steps = state.steps ++ first := by
  simp [steps, openScope]

/-- Output is marked by a step of its own. -/
@[simp] theorem steps_markOutput (stored : Bool) (state : State) :
    (state.markOutput stored).steps = state.steps ++ if stored then [.store] else [] := by
  cases stored with
  | false => exact (List.append_nil _).symm
  | true => exact steps_emit .store state

@[simp] theorem errors_emit (step : Step) (state : State) :
    (state.emit step).errors = state.errors := by
  unfold errors emit
  cases state.scopes with
  | nil => rfl
  | cons top rest => simp [Scope.changeTop, Scope.emit]

/-- Reported errors come last, even if no scope was open. -/
@[simp] theorem errors_report (errors : List SchemaError) (state : State) :
    (state.report errors).errors = state.errors ++ errors := by
  unfold State.errors report
  cases errors with
  | nil => exact (List.append_nil _).symm
  | cons error others =>
    cases state.scopes with
    | nil => simp [Scope.changeTop, Scope.report, Scope.empty]
    | cons top rest => simp [Scope.changeTop, Scope.report]

@[simp] theorem errors_openScope (first : List Step) (state : State) :
    (state.openScope first).errors = state.errors := by
  simp [errors, openScope]

@[simp] theorem errors_markOutput (stored : Bool) (state : State) :
    (state.markOutput stored).errors = state.errors := by
  cases stored with
  | false => rfl
  | true => exact errors_emit .store state

/-- Streams are processed part by part. -/
theorem processAll_append (context : Context) (state : State) (first rest : List Event) :
    processAll context state (first ++ rest) =
      processAll context (processAll context state first) rest :=
  List.foldl_append

@[simp] theorem processAll_cons (context : Context) (state : State) (event : Event)
    (rest : List Event) :
    processAll context state (event :: rest) =
      processAll context (process context state event) rest := rfl

@[simp] theorem processAll_nil (context : Context) (state : State) :
    processAll context state [] = state := rfl

end Traversal.Compiler.State
