import Traversal.Document.Decode
import Traversal.Document.Json
import Traversal.Document.Toml
import Traversal.Files

/-! Loading settings and schemas from files. The format of a file shows in the extension of its
name, which is looked at only once the file has been read. -/
namespace Traversal

/-- The formats of settings and schema files. -/
inductive Format
  | toml
  | json
  deriving Repr, DecidableEq

namespace Format

/-- The format that an extension stands for. -/
def ofExtension : Option String → Option Format
  | some "toml" => some .toml
  | some "json" => some .json
  | _ => none

/-- The name of a format. -/
def name : Format → String
  | .toml => "TOML"
  | .json => "JSON"

/-- The data of a text in a format. -/
def parse : Format → List Char → Option Document.Data
  | .toml => Document.Toml.parse
  | .json => Document.Json.parse

/-- The way a format writes what a decoder reads. -/
def dialect : Format → Document.Dialect
  | .toml => .toml
  | .json => .json

/-- What a text in a format stands for. -/
def decode {α : Type} (format : Format) (decoder : Document.Dialect → Document.Data → Option α)
    (text : String) : Option α :=
  (format.parse text.toList).bind (decoder format.dialect)

end Format

/-- Why a file cannot be loaded: it cannot be read, its content is not what it should be, or its
name does not tell a format. -/
inductive LoadError
  | unreadable (path : String) (fault : Fault)
  | malformed (path : String) (format : Format)
  | unknownFormat (path : String)
  deriving Repr, DecidableEq

/-- The message about a file that cannot be loaded. What is wrong with its content is left open. -/
def LoadError.message : LoadError → String
  | .unreadable path fault => s!"could not read `{path}`: {fault.message}"
  | .malformed path format => s!"invalid {format.name} in `{path}`: <detail>"
  | .unknownFormat path => s!"unsupported file format for `{path}` (expected .toml or .json)"

/-- What the file at a path stands for. -/
def load {α : Type} (decoder : Document.Dialect → Document.Data → Option α) (files : Files)
    (path : String) : Except LoadError α :=
  match files.readText path with
  | .error fault => .error (.unreadable path fault)
  | .ok text =>
    match Format.ofExtension (Path.extension path) with
    | none => .error (.unknownFormat path)
    | some format =>
      match format.decode decoder text with
      | some value => .ok value
      | none => .error (.malformed path format)

/-- The settings in a TOML text. -/
def Settings.ofToml (text : String) : Option Settings :=
  Format.toml.decode Document.Decode.settings text

/-- The settings in a file. -/
def Settings.load (files : Files) (path : String) : Except LoadError Settings :=
  Traversal.load Document.Decode.settings files path

/-- The schema in a file. -/
def Schema.load (files : Files) (path : String) : Except LoadError Schema :=
  Traversal.load Document.Decode.schema files path

end Traversal
