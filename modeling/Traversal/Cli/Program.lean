import Traversal.Cli.Commands
import Traversal.Dotenv

/-! The program: from its arguments, environment and files to what it prints and the code with which
it ends. -/
namespace Traversal.Cli

/-- What a run of the program leaves: its code, and what it prints as result and as messages. -/
structure Ending where
  code : Nat
  output : String
  messages : String
  deriving Repr, DecidableEq

namespace Program

/-- The version that the program calls its own. -/
def versionLine : String := "tdsl 0.3.1\n"

/-- The code after a failed command. -/
def failureCode : Nat := 1

/-- The code after arguments that make no sense. -/
def senselessCode : Nat := 2

/-- The code after a run that breaks off before its arguments count. -/
def brokenCode : Nat := 101

/-- The file that supplies variables which the environment does not have. -/
def variablesFile : String := ".env"

/-- The variables of a run, unless the file holds one that cannot be set. -/
def knownVariables (environment : List Dotenv.Assignment) (files : Files) :
    Option (List Dotenv.Assignment) :=
  match files variablesFile with
  | .ok bytes => Dotenv.load environment bytes
  | .error _ => some environment

/-- A text as lines on a terminal. -/
def lines (texts : List String) : String := String.join (texts.map (· ++ "\n"))

/-- How a run ends whose command has been carried out. -/
def ending (verbosity : Verbosity) (outcome : Outcome String) : Ending :=
  let notices := (outcome.notices.filter (·.shownAt verbosity)).map Notice.line
  match outcome.result with
  | .ok text => ⟨0, lines [text], lines notices⟩
  | .error text => ⟨failureCode, "", lines (notices ++ [text])⟩

/-- A run of the program. -/
def run (arguments : List String) (environment : List Dotenv.Assignment) (files : Files) : Ending :=
  match knownVariables environment files, Arguments.wish arguments with
  | none, _ => ⟨brokenCode, "", ""⟩
  | some _, .version => ⟨0, versionLine, ""⟩
  | some _, .help => ⟨0, "", ""⟩
  | some _, .senseless => ⟨senselessCode, "", ""⟩
  | some known, .command quiet verbose command =>
    ending (Verbosity.ofFlags quiet verbose) (command.run files (Dotenv.valueOf known))

/-- The files that a run may read, by path. -/
def paths (arguments : List String) : List String :=
  let ofSource (source : QuerySource) := source.file.toList
  let ofChoices (choices : Choices) := choices.config.toList ++ choices.schema.toList
  variablesFile :: match Arguments.wish arguments with
    | .command _ _ (.compile source choices _) | .command _ _ (.check source choices) =>
      ofSource source ++ ofChoices choices
    | .command _ _ (.events source) => ofSource source
    | _ => []

/-- The variables whose values a run may need. -/
def names (files : Files) : List String :=
  [Layers.rulesVariable, Layers.maxNodeCountVariable, Layers.validateStructureVariable] ++
    match files variablesFile with
    | .ok bytes => Dotenv.mentions bytes
    | .error _ => []

end Program

end Traversal.Cli
