import Traversal.Main
import Traversal.Proofs.Excerpts
import Traversal.Proofs.Legibility
import Traversal.Proofs.QueryFiles

/-! Locations of errors. An excerpt names a line and a column behind the name of the text that it is
taken from. The query in a file is trimmed before it is parsed, and what the excerpt names is the place
in the trimmed text: lines and blanks in front of the query are not counted, although the name is that
of the file. -/
namespace Traversal

namespace Excerpt
open Text

/-! ## What an excerpt shows -/

/-- An excerpt that names a line and a column, counted from one, of a text of a given name. -/
def Shows (excerpt name : String) (number column : Nat) : Prop :=
  ∃ message characters first past, column = first + 1 ∧
    excerpt = frame name message number ⟨characters, first, past⟩

theorem repeated_blank_free (count : Nat) : '\x1b' ∉ (repeated count " ").toList := by
  induction count with
  | zero => decide
  | succ count ih =>
    have cons : repeated (count + 1) " " = " " ++ repeated count " " := by
      rw [repeated, List.replicate_succ, String.join_cons, ← repeated]
    rw [cons, String.toList_append, List.mem_append]
    rintro (blank | later)
    · exact absurd blank (by decide)
    · exact ih later

/-- All excerpts begin alike, up to the width of a margin and the name of the text, behind which stand
the line and the column. -/
theorem frame_begins : ∃ headline corner : String, ∀ name message number line, ∃ rest : String,
    frame name message number line = headline ++ (repeated ((toString number).length + 2) " " ++
      ("\x1b[" ++ (corner ++ (name ++ (":" ++ (toString number ++ (":" ++
        (toString (line.first + 1) ++ (" " ++ rest))))))))) := by
  obtain ⟨style, painted⟩ := paint_eq frameStyle "╭"
  refine ⟨markStyle.paint "[PARSE_ERROR] Error:" ++ (" invalid traversal query" ++ "\n"),
    style ++ (frameStyle.paint "─" ++ (frameStyle.paint "[" ++ " ")), fun name message number line => ?_⟩
  have plain (text : String) : toString text = text := rfl
  unfold frame
  simp only [List.map_cons, String.join_cons, painted, plain, String.append_assoc]
  exact ⟨_, rfl⟩

/-- An excerpt names only one place. -/
theorem Shows.unique {excerpt name : String} {number number' column column' : Nat}
    (shows : Shows excerpt name number column) (shows' : Shows excerpt name number' column') :
    number = number' ∧ column = column' := by
  obtain ⟨headline, corner, begins⟩ := frame_begins
  obtain ⟨message, characters, first, past, rfl, rfl⟩ := shows
  obtain ⟨message', characters', first', past', rfl, same⟩ := shows'
  obtain ⟨rest, left⟩ := begins name message number ⟨characters, first, past⟩
  obtain ⟨rest', right⟩ := begins name message' number' ⟨characters', first', past'⟩
  have escape : "\x1b[".toList = ['\x1b', '['] := by decide
  have colon : ":".toList = [':'] := by decide
  have blank : " ".toList = [' '] := by decide
  have texts := congrArg String.toList (left.symm.trans (same.trans right))
  simp only [String.toList_append, escape, colon, blank, List.cons_append, List.nil_append] at texts
  obtain ⟨-, corners⟩ := cut_unique (repeated_blank_free _) (repeated_blank_free _)
    (List.append_cancel_left texts)
  have numbers := List.append_cancel_left (List.append_cancel_left (List.cons.inj corners).2)
  obtain ⟨rfl, columns⟩ := count_unique (by decide) (List.cons.inj numbers).2
  obtain ⟨columns', -⟩ := count_unique (by decide) columns
  exact ⟨rfl, columns'⟩

end Excerpt

namespace Cli
open Excerpt Layers Text

variable {files : Files} {environment : Environment} {command : Command} {path text : String}

/-! ## Commands -/

/-- Where a command has its query from. -/
def Command.source : Command → QuerySource
  | .compile source _ _ | .check source _ | .events source => source

/-- Whatever a command needs besides a query is there. -/
def Command.Ready (files : Files) (environment : Environment) : Command → Prop
  | .compile _ choices _ | .check _ choices =>
    (∃ settings, resolve files environment choices = .ok settings) ∧
      ∃ schema, loadSchema files choices = .ok schema
  | .events _ => True

theorem exists_prepared {source : QuerySource} {choices : Choices} {query : NamedQuery}
    (read : readQuery files source = .ok query)
    (ready : (∃ settings, resolve files environment choices = .ok settings) ∧
      ∃ schema, loadSchema files choices = .ok schema) :
    ∃ prepared, (prepare files environment source choices).result = .ok prepared ∧
      prepared.query = query := by
  obtain ⟨⟨settings, resolved⟩, schema, loaded⟩ := ready
  refine ⟨⟨query, settings, schema⟩, ?_, rfl⟩
  unfold prepare
  rw [read]
  simp only [resolved, loaded]

theorem compiled_of_error {prepared : Prepared} {error : ParseError}
    (failed : parseEvents prepared.query.text = .error error) :
    prepared.compiled = .error (.parse error.diagnostic) := by
  unfold Prepared.compiled Traversal.compile
  rw [failed]

/-- Every command shows the errors of the parser alike: in the text that it has parsed, under the name
that goes with it. -/
theorem run_of_error {query : NamedQuery} {error : ParseError}
    (read : readQuery files command.source = .ok query) (ready : command.Ready files environment)
    (failed : parseEvents query.text = .error error) :
    (command.run files environment).result =
      .error (render error.diagnostic query.text.toList query.name) := by
  cases command with
  | compile source choices json =>
    obtain ⟨prepared, result, rfl⟩ := exists_prepared (show readQuery files source = _ from read) ready
    unfold Command.run runCompile
    simp only [result, compiled_of_error failed]
    rfl
  | check source choices =>
    obtain ⟨prepared, result, rfl⟩ := exists_prepared (show readQuery files source = _ from read) ready
    unfold Command.run runCheck
    simp only [result, compiled_of_error failed]
    rfl
  | events source =>
    unfold Command.run runEvents
    simp only [show readQuery files source = .ok query from read, failed]
    rfl

/-! ## Errors in files -/

/-- The text of a file around the character that is marked for an error behind `before` in its query:
that character, or at the end of the query the last one, with the rest of the query on both sides and
white space around all. -/
structure MarkedIn (text before lead front : List Char) (mark : Char) (back trail : List Char) : Prop where
  whole : text = lead ++ ((front ++ mark :: back) ++ trail)
  query : trimEnd (trimStart text) = front ++ mark :: back
  space : ∀ c ∈ lead, isSpace c = true
  space' : ∀ c ∈ trail, isSpace c = true
  stands : before = front ∨ back = [] ∧ before = front ++ [mark]

/-- An error that is not at the end of the query marks the character behind it. -/
theorem front_of_inside {text before front back : List Char} {mark : Char}
    (whole : text = front ++ mark :: back) (stands : before = front ∨ back = [] ∧ before = front ++ [mark])
    (inside : before.length < text.length) : front = before := by
  rcases stands with same | ⟨rfl, rfl⟩
  · exact same.symm
  · rw [whole] at inside
    exact absurd inside (Nat.lt_irrefl _)

/-- What the excerpt for an error shows is the place of the marked character in the text that has been
parsed. -/
theorem render_shows {text before : List Char} {expected : List Construct} (name : String)
    (nonempty : text ≠ []) (failed : Query.parse text = .error (.unexpected before expected)) :
    ∃ front mark back number column, text = front ++ mark :: back ∧
      (before = front ∨ back = [] ∧ before = front ++ [mark]) ∧
      location text front.length = some (number, column) ∧
      Shows (render (ParseError.unexpected before expected).diagnostic text name) name number column := by
  obtain ⟨-, ⟨after, whole⟩, -⟩ := expected_of_unexpected failed
  obtain ⟨front, mark, back, rfl, stands, marked⟩ := markedRange_of_error nonempty whole
  obtain ⟨first, past, marked', marks⟩ :=
    exists_marks nonempty (byteLength before) (byteLength before + 1)
  cases marked.symm.trans marked'
  have placed : (ParseError.unexpected before expected).diagnostic.place = some ⟨byteLength before,
      byteLength before + 1, (lineAndColumn before).1, (lineAndColumn before).2⟩ := rfl
  obtain ⟨number, line, column, found, framed⟩ := exists_frame name placed marked marks
  rw [charactersBefore_append] at found
  refine ⟨front, mark, back, number, column + 1, rfl, stands, ?_, _, _, _, _, rfl, framed⟩
  rw [location, found]
  rfl

/-- An error in a file is shown at its place in the query that trimming leaves of the file. That lies
behind `above` lines of the file, and behind `beside` characters of the line on which it begins, and
neither is added to what is shown. So the place shown is the place in the file if and only if no line
ends in front of the query and, for an error on its first line, nothing stands in front of it. If
trimming leaves nothing, no place is shown. -/
theorem places_in_files_count_from_the_query {before : List Char} {expected : List Construct}
    (source : command.source = ⟨none, some path⟩) (content : files.readText path = .ok text)
    (ready : command.Ready files environment)
    (failed : parseEvents (trim text) = .error (.unexpected before expected)) :
    (trim text = "" →
      (command.run files environment).result = .error (bare (Construct.expectation expected))) ∧
    (trim text ≠ "" → ∃ lead front mark back trail excerpt number column above beside,
      MarkedIn text.toList before lead front mark back trail ∧
      (command.run files environment).result = .error excerpt ∧
      Shows excerpt path number column ∧
      (∀ number' column', Shows excerpt path number' column' → number' = number ∧ column' = column) ∧
      location (trim text).toList front.length = some (number, column) ∧
      location text.toList lead.length = some (above + 1, beside + 1) ∧
      location text.toList (lead.length + front.length) =
        some (above + number, if number = 1 then beside + column else column) ∧
      (location text.toList (lead.length + front.length) = some (number, column) ↔
        (∀ c ∈ lead, isLineEnd c = false) ∧ (number = 1 → lead = []))) := by
  have read : readQuery files command.source = .ok ⟨trim text, path⟩ := by
    rw [source]
    exact readQuery_file content
  have result := run_of_error read ready failed
  constructor
  case left =>
    intro empty
    rw [result]
    have nothing : (trim text).toList = [] := String.toList_eq_nil_iff.mpr empty
    exact congrArg Except.error ((render_eq_bare_iff _ _ _).mpr (Or.inr nothing))
  case right =>
    intro nonempty
    have filled : (trim text).toList ≠ [] := fun none => nonempty (String.toList_eq_nil_iff.mp none)
    obtain ⟨front, mark, back, number, column, core, stands, located, shows⟩ :=
      render_shows path filled ((parseEvents_eq_error_iff _ _).mp failed)
    obtain ⟨lead, trail, whole, space, space', begins⟩ := exists_surroundings text.toList
    rw [← toList_trim, core] at whole begins
    have apart : (front ++ mark :: back ++ trail).head? ≠ some '\n' := by
      intro feed
      rw [List.head?_append_of_ne_nil _ (by simp)] at feed
      exact absurd (begins _ feed) (by decide)
    have inside : front.length < (front ++ mark :: back).length := by simp
    rw [core] at located
    obtain ⟨above, beside, unended, unmoved, first, moved⟩ :=
      location_behind apart (by simp) lead
    have there := moved _ _ _ ((location_append inside trail).trans located)
    rw [← whole] at first there
    refine ⟨lead, front, mark, back, trail, _, number, column, above, beside,
      ⟨whole, (toList_trim text).symm.trans core, space, space', stands⟩, result, shows,
      fun number' column' shows' => shows'.unique shows, core ▸ located, first, there, ?_⟩
    rw [there, Option.some.injEq, Prod.mk.injEq, ← unended]
    constructor
    · rintro ⟨lines, columns⟩
      have level : above = 0 := by omega
      refine ⟨level, fun one => ?_⟩
      rw [if_pos one] at columns
      exact List.length_eq_zero_iff.mp (by rw [← unmoved level]; omega)
    · rintro ⟨level, alone⟩
      refine ⟨by omega, ?_⟩
      by_cases one : number = 1
      · rw [if_pos one, unmoved level, alone one, List.length_nil, Nat.zero_add]
      · rw [if_neg one]

/-- Blanks in front of a query move the error in it, but not what the excerpt shows. -/
theorem blanks_in_front_are_not_counted :
    let text := "  a ]"
    let files : Files := fun _ => .ok text.toUTF8
    (∃ excerpt, ((Command.events ⟨none, some "q.tdsl"⟩).run files fun _ => none).result =
      .error excerpt ∧ Shows excerpt "q.tdsl" 1 3) ∧ location text.toList 4 = some (1, 5) := by
  intro text files
  have trimmed : trim text = "a ]" := by decide
  have failed : parseEvents (trim text) = .error (.unexpected ['a', ' ']
      [.store, .negation, .negation, .store, .hop, .limit, .endOfQuery]) := by
    rw [trimmed]
    cbv
  obtain ⟨-, shown⟩ := places_in_files_count_from_the_query
    (show (Command.events ⟨none, some "q.tdsl"⟩).source = _ from rfl)
    (Files.readText_of_bytes (show files "q.tdsl" = .ok text.toUTF8 from rfl))
    (show Command.Ready files (fun _ => none) (.events ⟨none, some "q.tdsl"⟩) from trivial) failed
  obtain ⟨lead, front, mark, back, trail, excerpt, number, column, above, beside, marked, result, shows, -,
    located, -⟩ := shown (by rw [trimmed]; decide)
  cases front_of_inside marked.query marked.stands (by decide)
  cases located.symm.trans (show location (trim text).toList 2 = some (1, 3) by decide)
  exact ⟨⟨excerpt, result, shows⟩, by decide⟩

/-- The place that is shown under the name of a file can be another than that in the file. -/
theorem places_in_files_can_be_wrong :
    ¬ ∀ (files : Files) (environment : Environment) (command : Command) (path text : String)
      (before : List Char) (expected : List Construct) (lead front : List Char) (mark : Char)
      (back trail : List Char) (excerpt : String) (number column : Nat),
      command.source = ⟨none, some path⟩ → files.readText path = .ok text →
      command.Ready files environment →
      parseEvents (trim text) = .error (.unexpected before expected) →
      MarkedIn text.toList before lead front mark back trail →
      (command.run files environment).result = .error excerpt → Shows excerpt path number column →
      location text.toList (lead.length + front.length) = some (number, column) := by
  intro right
  let files : Files := fun _ => .ok "\na ]".toUTF8
  let command : Command := .compile ⟨none, some "q.tdsl"⟩ {} false
  have content : files.readText "q.tdsl" = .ok "\na ]" := Files.readText_of_bytes rfl
  have failed : parseEvents "a ]" = .error (.unexpected ['a', ' ']
      [.store, .negation, .negation, .store, .hop, .limit, .endOfQuery]) := by cbv
  have trimmed : trim "\na ]" = "a ]" := by decide
  have marked : MarkedIn "\na ]".toList ['a', ' '] ['\n'] ['a', ' '] ']' [] [] :=
    ⟨by decide, by decide, isSpace_of_layout (by simp [Layout]), by simp, Or.inl rfl⟩
  have read : readQuery files command.source = .ok ⟨"a ]", "q.tdsl"⟩ := by
    rw [← trimmed]
    exact readQuery_file content
  have ready : command.Ready files fun _ => none := ⟨⟨_, rfl⟩, _, rfl⟩
  have result := run_of_error read ready failed
  have shows : Shows (render (ParseError.unexpected ['a', ' ']
      [.store, .negation, .negation, .store, .hop, .limit, .endOfQuery]).diagnostic "a ]".toList "q.tdsl")
      "q.tdsl" 1 3 := by
    obtain ⟨front, mark, back, number, column, core, stands, located, shows⟩ := render_shows "q.tdsl"
      (show "a ]".toList ≠ [] by decide) ((parseEvents_eq_error_iff _ _).mp failed)
    cases front_of_inside core stands (by decide)
    cases located.symm.trans (show location "a ]".toList 2 = some (1, 3) by decide)
    exact shows
  have moved := right files (fun _ => none) command "q.tdsl" "\na ]" _ _ _ _ _ _ _ _ 1 3 rfl content
    ready (trimmed ▸ failed) marked result shows
  exact absurd moved (by decide)

end Cli

end Traversal
