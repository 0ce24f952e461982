import Traversal.Cli.Arguments
import Traversal.Cli.Report
import Traversal.Load
import Traversal.Text.Space

/-! Layers: the settings of a run come from a file, over it from the environment, and over that from
the command line. The schema and the query come from where the command line says. -/
namespace Traversal.Cli

/-- The variables of the environment. -/
abbrev Environment := String → Option String

namespace Layers

/-- The variable that names the cost rules. -/
def rulesVariable : String := "TDSL_VALIDATION_RULES"

/-- The variable that holds the ceiling on vertices. -/
def maxNodeCountVariable : String := "TDSL_MAX_NODE_COUNT"

/-- The variable that holds whether filter keys are checked. -/
def validateStructureVariable : String := "TDSL_VALIDATE_STRUCTURE"

/-- The truth value of a word in letters of either case, with white space around it. -/
def truthValue (text : String) : Option Bool :=
  match String.ofList ((Text.trim text).toList.map Char.toLower) with
  | "true" | "1" | "yes" => some true
  | "false" | "0" | "no" => some false
  | _ => none

/-- The count in a text, with white space around it. -/
def countValue (text : String) : Option Nat :=
  Text.boundedNatural Text.countBound (Text.trim text).toList

/-- The report about a variable whose value makes no sense. -/
def invalidVariable (name value hint : String) : Report :=
  ⟨s!"invalid {name} value `{value}`", none, some hint⟩

/-- What a variable says, or a fallback if it is not set. -/
def variableOr {α : Type} (environment : Environment) (name : String) (meaning : String → Option α)
    (hint : String) (fallback : α) : Except Report α :=
  match environment name with
  | none => .ok fallback
  | some value =>
    match meaning value with
    | some result => .ok result
    | none => .error (invalidVariable name value hint)

/-- Settings with what the environment says. It has no say in whether the result is aggregated. -/
def applyEnvironment (environment : Environment) (settings : Settings) :
    Except Report Settings := do
  let rules := ((environment rulesVariable).map RuleSet.parse).getD settings.rules
  let maxNodeCount ← variableOr environment maxNodeCountVariable countValue
    "use a non-negative integer" settings.maxNodeCount
  let validateStructure ← variableOr environment validateStructureVariable truthValue
    "use true/false or 1/0" settings.validateStructure
  return { settings with rules, maxNodeCount, validateStructure }

/-- Settings with what the command line says. Its flags switch on and never off. -/
def applyChoices (choices : Choices) (settings : Settings) : Settings where
  rules := (choices.rules.map RuleSet.parse).getD settings.rules
  maxNodeCount := choices.maxNodeCount.getD settings.maxNodeCount
  validateStructure := choices.validateStructure || settings.validateStructure
  aggregate := choices.aggregate || settings.aggregate

/-- The settings in the file that the command line names, if it names one. -/
def baseSettings (files : Files) (choices : Choices) : Except Report Settings :=
  match choices.config with
  | none => .ok {}
  | some path =>
    match Settings.load files path with
    | .ok settings => .ok settings
    | .error error => .error ⟨s!"failed to load config `{path}`", some error.message,
        some "config files must end in .toml or .json"⟩

/-- The settings of a run. -/
def resolve (files : Files) (environment : Environment) (choices : Choices) :
    Except Report Settings := do
  let base ← baseSettings files choices
  let settings ← applyEnvironment environment base
  return applyChoices choices settings

/-- The schema of a run, if the command line names one. -/
def loadSchema (files : Files) (choices : Choices) : Except Report (Option Schema) :=
  match choices.schema with
  | none => .ok none
  | some path =>
    match Schema.load files path with
    | .ok schema => .ok (some schema)
    | .error error => .error ⟨s!"failed to load schema `{path}`", some error.message, none⟩

/-- A query text and the name under which errors in it are reported. -/
structure NamedQuery where
  text : String
  name : String
  deriving Repr, DecidableEq

/-- The report about a command line without a query. -/
def noQuery : Report where
  message := "no query given"
  context := some "neither a query argument nor --file was provided"
  hint := some "pass the query text, e.g. tdsl compile \"pnf*\", or --file <path>"

/-- The query of a run. White space around the query in a file does not belong to it. -/
def readQuery (files : Files) (source : QuerySource) : Except Report NamedQuery :=
  match source.text, source.file with
  | some text, _ => .ok ⟨text, "<query>"⟩
  | none, some path =>
    match files.readText path with
    | .ok text => .ok ⟨Text.trim text, path⟩
    | .error fault => .error ⟨s!"failed to read query file `{path}`", some fault.message, none⟩
  | none, none => .error noQuery

end Layers

end Traversal.Cli
