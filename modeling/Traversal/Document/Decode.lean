import Traversal.Document.Data
import Traversal.Schema
import Traversal.Settings
import Traversal.Text.Position

/-! Decoding: the settings or the schema that data stand for. Keys that nobody knows are ignored.
Fields may be given without their names too, as a list in the order of the fields. -/
namespace Traversal.Document

/-- What a format leaves open: whether a list of fields may have more items than there are fields,
and which data may stand behind a word that is written as the only key of a record. -/
structure Dialect where
  surplusItems : Bool
  wordContent : Data → Bool

/-- JSON is strict about surplus items, and has a null. -/
def Dialect.json : Dialect where
  surplusItems := false
  wordContent
    | .null => true
    | _ => false

/-- TOML ignores surplus items, and has an empty table or list where JSON has a null. -/
def Dialect.toml : Dialect where
  surplusItems := true
  wordContent
    | .record [] | .list [] => true
    | _ => false

namespace Decode

variable {α : Type}

/-- A truth value. -/
def boolean : Data → Option Bool
  | .boolean value => some value
  | _ => none

/-- A count. -/
def count : Data → Option Nat
  | .integer value =>
    if 0 ≤ value && value < Text.countBound then some value.toNat else none
  | _ => none

/-- A text. -/
def text : Data → Option String
  | .text value => some value
  | _ => none

/-- A list of decoded items. -/
def list (item : Data → Option α) : Data → Option (List α)
  | .list items => items.mapM item
  | _ => none

/-- The only data given for a key, if any are. -/
def single (entries : List (String × Data)) (key : String) : Option (Option Data) :=
  match entries.filter (·.1 = key) with
  | [] => some none
  | [entry] => some (some entry.2)
  | _ => none

/-- The data given for fields, by name in a record or by position in a list. A moment acts as a
record without any of the fields. -/
def fields (dialect : Dialect) (names : List String) : Data → Option (List (Option Data))
  | .record entries => names.mapM (single entries)
  | .list items =>
    if dialect.surplusItems || items.length ≤ names.length then
      some (names.zipIdx.map fun (_, index) => items[index]?)
    else none
  | .moment => some (names.map fun _ => none)
  | _ => none

/-- A decoded field, or its default if it is not given. -/
def orDefault (decode : Data → Option α) (fallback : α) : Option Data → Option α
  | some data => decode data
  | none => some fallback

/-- A decoded field that has to be given. -/
def required (decode : Data → Option α) (data : Option Data) : Option α := data.bind decode

/-- One of several words, written as a text or as the only key of a record. -/
def word (dialect : Dialect) (meaning : String → Option α) : Data → Option α
  | .text value => meaning value
  | .record [(key, content)] => if dialect.wordContent content then meaning key else none
  | _ => none

/-- Settings. Every field has a default. -/
def settings (dialect : Dialect) (data : Data) : Option Settings := do
  let names := ["validation_rules", "max_node_count", "validate_structure", "aggregate"]
  match ← fields dialect names data with
  | [rules, maxNodeCount, validateStructure, aggregate] =>
    let fallback : Settings := {}
    return {
      rules := ← orDefault (fun data => (text data).map RuleSet.parse) fallback.rules rules
      maxNodeCount := ← orDefault count fallback.maxNodeCount maxNodeCount
      validateStructure := ← orDefault boolean fallback.validateStructure validateStructure
      aggregate := ← orDefault boolean fallback.aggregate aggregate }
  | _ => none

/-- The kinds of edges by their words. -/
def edgeKind : String → Option EdgeKind
  | "tree" => some .tree
  | "cousin" => some .cousin
  | _ => none

/-- An edge rule. Its kind alone has a default. -/
def edgeRule (dialect : Dialect) (data : Data) : Option EdgeRule := do
  match ← fields dialect ["from", "to", "label", "kind"] data with
  | [source, target, label, kind] =>
    return {
      source := ← required text source
      target := ← required text target
      label := ← required text label
      kind := ← orDefault (word dialect edgeKind) .tree kind }
  | _ => none

/-- The properties of a node type, each once. -/
def properties (dialect : Dialect) (data : Data) : Option (List String) := do
  match ← fields dialect ["properties"] data with
  | [given] => return Schema.extend [] (← orDefault (list text) [] given)
  | _ => none

/-- The node types with one of them given anew. It keeps its place. -/
def replace (type : String) (properties : List String) :
    List (String × List String) → List (String × List String)
  | [] => [(type, properties)]
  | (name, known) :: rest =>
    if name = type then (name, properties) :: rest
    else (name, known) :: replace type properties rest

/-- The node types. Of a type that is given several times the last properties count. -/
def nodes (dialect : Dialect) : Data → Option (List (String × List String))
  | .record entries =>
    entries.foldlM (fun known (type, data) => do
      return replace type (← properties dialect data) known) []
  | _ => none

/-- A schema. -/
def schema (dialect : Dialect) (data : Data) : Option Schema := do
  match ← fields dialect ["nodes", "edges"] data with
  | [types, edges] =>
    return {
      nodes := ← orDefault (nodes dialect) [] types
      edges := ← orDefault (list (edgeRule dialect)) [] edges }
  | _ => none

end Decode

end Traversal.Document
