import Traversal.Main
import Traversal.Proofs.Trimming

/-! Queries in files. A text that is a query is the same query in a file, where it is trimmed: the
command that compiles it leads to the same result from either source. -/
namespace Traversal

/-- The bytes of a text are read as that text. -/
theorem Files.readText_of_bytes {files : Files} {path text : String}
    (content : files path = .ok text.toUTF8) : files.readText path = .ok text := by
  have decoded : String.fromUTF8? text.toUTF8 = some text := by
    simp only [String.fromUTF8?, String.toUTF8_eq_toByteArray, dif_pos text.isValidUTF8]
    rfl
  simp only [Files.readText, content, decoded]

namespace Cli
open Layers

theorem Layers.readQuery_file {files : Files} {path text : String}
    (content : files.readText path = .ok text) :
    readQuery files ⟨none, some path⟩ = .ok ⟨Text.trim text, path⟩ := by
  simp only [readQuery, content]

/-- Trimming does not change the stream of a query. -/
theorem parseEvents_trim {text : String} {events : List Event}
    (accepted : parseEvents text = .ok events) :
    parseEvents (Text.trim text) = .ok events ∧ ∃ lead trail, Layout lead ∧ Layout trail ∧
      text.toList = lead ++ ((Text.trim text).toList ++ trail) := by
  obtain ⟨query, parsed, rfl⟩ := parse_of_parseEvents accepted
  obtain ⟨parsed', around⟩ := Grammar.parse_trim parsed
  rw [← Text.toList_trim] at parsed' around
  exact ⟨by rw [parseEvents, parsed']; rfl, around⟩

theorem compile_congr {text text' : String} (same : parseEvents text = parseEvents text')
    (settings : Settings) (view : Option SchemaView) :
    compile settings view text = compile settings view text' := by
  unfold compile
  rw [same]

/-- Two sources that differ only in the name and the spelling of the same query compile alike. -/
theorem runCompile_ok_congr {files : Files} {source source' : QuerySource} {query query' : NamedQuery}
    (read : readQuery files source = .ok query) (read' : readQuery files source' = .ok query')
    (same : parseEvents query.text = parseEvents query'.text) (environment : Environment)
    (choices : Choices) (json : Bool) (output : String) :
    (runCompile files environment source choices json).result = .ok output ↔
      (runCompile files environment source' choices json).result = .ok output := by
  unfold runCompile prepare
  rw [read, read']
  cases resolve files environment choices with
  | error report => rfl
  | ok settings =>
    dsimp only
    cases loadSchema files choices with
    | error report => rfl
    | ok schema =>
      simp only [Prepared.compiled, compile_congr same]
      cases compile settings (schema.map Schema.view) query'.text with
      | error rejection => simp only [reduceCtorEq]
      | ok compiled => rfl

/-- A text that is a query gives the same stream when it is read from a file, where it loses nothing but
layout at its ends, and its compilation leads to a result from the file if and only if it leads to the
same result from the command line. -/
theorem queries_survive_in_files {files : Files} {path text : String} {events : List Event}
    (accepted : parseEvents text = .ok events) (content : files path = .ok text.toUTF8) :
    ∃ query, readQuery files ⟨none, some path⟩ = .ok query ∧ parseEvents query.text = .ok events ∧
      (∃ lead trail, Layout lead ∧ Layout trail ∧
        text.toList = lead ++ (query.text.toList ++ trail)) ∧
      ∀ (environment : Environment) (choices : Choices) (json : Bool) (output : String),
        (runCompile files environment ⟨none, some path⟩ choices json).result = .ok output ↔
          (runCompile files environment ⟨some text, none⟩ choices json).result = .ok output := by
  obtain ⟨accepted', around⟩ := parseEvents_trim accepted
  have read := readQuery_file (Files.readText_of_bytes content)
  have read' : readQuery files ⟨some text, none⟩ = .ok ⟨text, "<query>"⟩ := rfl
  exact ⟨_, read, accepted', around,
    runCompile_ok_congr read read' (accepted'.trans accepted.symm)⟩

/-- White space inside quotes stays, even such as is no layout. -/
theorem quoted_white_space_survives_in_files :
    let text := "\r\n a*('\u00a0') \t"
    let files : Files := fun _ => .ok text.toUTF8
    ∃ query, readQuery files ⟨none, some "q.tdsl"⟩ = .ok query ∧
      parseEvents query.text = .ok [.queryEnter, .startEnter, .vertexEnter "a",
        .propertyFilter ⟨"\u00a0", false, [], [], []⟩, .vertexExit true (some ["\u00a0"]), .startExit,
        .queryExit] ∧
      ∀ output, (runCompile files (fun _ => none) ⟨none, some "q.tdsl"⟩ {} false).result = .ok output ↔
        (runCompile files (fun _ => none) ⟨some text, none⟩ {} false).result = .ok output := by
  intro text files
  have accepted : parseEvents text = .ok [.queryEnter, .startEnter, .vertexEnter "a",
      .propertyFilter ⟨"\u00a0", false, [], [], []⟩, .vertexExit true (some ["\u00a0"]), .startExit,
      .queryExit] := by cbv
  obtain ⟨query, read, accepted', -, same⟩ := queries_survive_in_files
    (show parseEvents text = .ok _ from accepted) (show files "q.tdsl" = .ok text.toUTF8 from rfl)
  exact ⟨query, read, accepted', same _ _ false⟩

end Cli

end Traversal
