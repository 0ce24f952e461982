import Traversal.Cli.Layers
import Traversal.Cli.Notice
import Traversal.Compiler.Machine
import Traversal.Document.Json.Quote
import Traversal.Excerpt

/-! Commands: to compile a query, to check it, and to list the events of its stream. -/
namespace Traversal.Cli

/-- The advice about a rejected query. -/
def adviceOn : Category → String
  | .malformed => "check the node types and edge labels against the schema"
  | .structural => "mark at least one node for output with `*`"
  | .tooExpensive => "narrow the traversal, or relax --rules / --max-node-count"

/-- What a user is told about a rejected query: an excerpt if its text is no query, and a report
otherwise. -/
def renderRejection (rejection : Rejection) (text name : String) : String :=
  match rejection with
  | .parse diagnostic => Excerpt.render diagnostic text.toList name
  | other => Report.render ⟨other.message, some s!"[{other.code}] in {name}",
      some (adviceOn other.category)⟩

/-- What a command leads to: notices on the way, and a result or the text of a failure. -/
structure Outcome (α : Type) where
  notices : List Notice
  result : Except String α
  deriving Repr

/-- A query with everything that its compilation needs. -/
structure Prepared where
  query : Layers.NamedQuery
  settings : Settings
  schema : Option Schema

/-- The detail about the settings of a run. -/
def settingsDetail (settings : Settings) : Notice :=
  .detail (s!"rules={settings.rules.text} max_node_count={settings.maxNodeCount} " ++
    s!"validate_structure={Event.boolText settings.validateStructure} " ++
    s!"aggregate={Event.boolText settings.aggregate}")

/-- Reads the query, then the settings, and then the schema. -/
def prepare (files : Files) (environment : Environment) (source : QuerySource)
    (choices : Choices) : Outcome Prepared :=
  match Layers.readQuery files source with
  | .error report => ⟨[], .error report.render⟩
  | .ok query =>
    match Layers.resolve files environment choices with
    | .error report => ⟨[], .error report.render⟩
    | .ok settings =>
      match Layers.loadSchema files choices with
      | .error report => ⟨[settingsDetail settings], .error report.render⟩
      | .ok schema => ⟨[settingsDetail settings], .ok ⟨query, settings, schema⟩⟩

namespace Prepared

/-- Compiles the query. -/
def compiled (prepared : Prepared) : Except Rejection CompiledQuery :=
  compile prepared.settings (prepared.schema.map Schema.view) prepared.query.text

/-- What a user is told if the query is rejected. -/
def rejected (prepared : Prepared) (rejection : Rejection) : String :=
  renderRejection rejection prepared.query.text prepared.query.name

end Prepared

/-- A compiled query in JSON. -/
def jsonText (compiled : CompiledQuery) : String :=
  "\x7b\n" ++
    s!"  \"query\": {Document.Json.quote compiled.query},\n" ++
    s!"  \"aggregate\": {Event.boolText compiled.aggregate},\n" ++
    s!"  \"node_count\": {compiled.nodeCount},\n" ++
    s!"  \"edge_count\": {compiled.edgeCount}\n" ++
    "\x7d"

/-- The detail about the size of a compiled query. -/
def sizeDetail (compiled : CompiledQuery) : Notice :=
  .detail s!"{compiled.nodeCount} nodes, {compiled.edgeCount} edges"

/-- Compiles a query to its text, or to JSON. -/
def runCompile (files : Files) (environment : Environment) (source : QuerySource)
    (choices : Choices) (json : Bool) : Outcome String :=
  let preparation := prepare files environment source choices
  match preparation.result with
  | .error text => ⟨preparation.notices, .error text⟩
  | .ok prepared =>
    match prepared.compiled with
    | .ok compiled => ⟨preparation.notices ++ [sizeDetail compiled],
        .ok (if json then jsonText compiled else compiled.query)⟩
    | .error rejection => ⟨preparation.notices, .error (prepared.rejected rejection)⟩

/-- Checks whether a query compiles. -/
def runCheck (files : Files) (environment : Environment) (source : QuerySource)
    (choices : Choices) : Outcome String :=
  let preparation := prepare files environment source choices
  match preparation.result with
  | .error text => ⟨preparation.notices, .error text⟩
  | .ok prepared =>
    let name := prepared.query.name
    match prepared.compiled with
    | .ok _ => ⟨preparation.notices ++ [.success s!"{name} is valid"], .ok "ok"⟩
    | .error rejection => ⟨preparation.notices ++ [.failure s!"{name} is invalid"],
        .error (prepared.rejected rejection)⟩

/-- Lists the events of a query's stream, one a line. -/
def runEvents (files : Files) (source : QuerySource) : Outcome String :=
  match Layers.readQuery files source with
  | .error report => ⟨[], .error report.render⟩
  | .ok query =>
    match parseEvents query.text with
    | .ok events => ⟨[], .ok ("\n".intercalate (events.map Event.text))⟩
    | .error error =>
      ⟨[], .error (renderRejection (.parse error.diagnostic) query.text query.name)⟩

/-- Carries out a command. -/
def Command.run (files : Files) (environment : Environment) : Command → Outcome String
  | .compile source choices json => runCompile files environment source choices json
  | .check source choices => runCheck files environment source choices
  | .events source => runEvents files source

end Traversal.Cli
