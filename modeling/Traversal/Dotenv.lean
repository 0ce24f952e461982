import Traversal.Text.Alphanumeric
import Traversal.Text.Space

/-! Files of environment variables: one assignment a line, with quotes, escapes, comments and
references to other variables. A faulty line ends the reading; what stands in front of it counts. -/
namespace Traversal.Dotenv

/-! ## Lines

A quoted text may hold line ends, so a line of the file in the sense of an assignment can take
several lines of text. -/

/-- Where a reader is in a line: anywhere, behind a blank, behind a backslash, or between quote
marks, there perhaps behind a backslash. -/
inductive Mode
  | plain
  | blank
  | escape
  | quoted (mark : Char)
  | quotedEscape (mark : Char)
  deriving Repr, DecidableEq

namespace Mode

/-- The character that makes the next one stand for itself. -/
def escapeMark : Char := '\x5c'

/-- Whether a character opens a quoted text. -/
def isMark (c : Char) : Bool := c == '\x27' || c == '\x22'

/-- What a character outside quote marks leads to. -/
def outside (c : Char) : Mode :=
  if c = escapeMark then .escape else if isMark c then .quoted c else .plain

/-- Where the reader is after one more character. Two blanks in a row count as none. -/
def next (c : Char) : Mode → Mode
  | .plain => if Text.isSpace c && c != '\n' && c != '\r' then .blank else outside c
  | .blank => outside c
  | .escape => .plain
  | .quoted mark =>
    if c = escapeMark then .quotedEscape mark else if c = mark then .plain else .quoted mark
  | .quotedEscape mark => .quoted mark

end Mode

/-- What remains of a line of text without its comment, and where the reader is after it: nowhere if
a comment ended it. A comment begins with a number sign behind a blank. -/
def uncommented : Mode → List Char → List Char × Option Mode
  | mode, [] => ([], some mode)
  | mode, c :: rest =>
    if mode = .blank && c == '#' then ([], none)
    else
      let (kept, last) := uncommented (mode.next c) rest
      (c :: kept, last)

/-- The assignments' lines of the lines of a text, each of which keeps its line end or is
unreadable. `pending` holds what has been passed of a line that is not complete. The fault of the
file, if it has one, stands last. -/
def joined (pending : List Char) (mode : Mode) : List (Option (List Char)) →
    List (Option (List Char))
  | [] => if mode = .plain then [] else [none]
  | none :: _ => [none]
  | some line :: rest =>
    if (Text.trimStart (pending ++ line)).head? = some '#' then some [] :: joined [] .plain rest
    else match uncommented mode line with
      | (kept, none) => some (pending ++ kept) :: joined [] .plain rest
      | (_, some .plain) => some (pending ++ line) :: joined [] .plain rest
      | (_, some open_) => joined (pending ++ line) open_ rest

/-! ## Assignments -/

/-- The values that a name can be replaced by. -/
abbrev Lookup := String → Option String

/-- Where a reader is in a value: anywhere, behind a backslash, between quote marks of either
kind, in a name behind a dollar sign, in a name between braces, behind the value, or in a comment.
Within weak quote marks names and escapes still count. -/
inductive ValueMode
  | value (weak : Bool)
  | escape (weak : Bool)
  | strong
  | name (weak : Bool) (letters : List Char)
  | braced (weak : Bool) (letters : List Char)
  | behind
  | comment
  deriving Repr, DecidableEq

/-- The value read so far, and where the reader is in it. -/
structure ValueState where
  output : List Char
  mode : ValueMode

namespace ValueState

/-- Adds a character to the value. -/
def push (state : ValueState) (c : Char) (mode : ValueMode) : ValueState :=
  ⟨state.output ++ [c], mode⟩

/-- Adds the value of a name. -/
def substitute (lookup : Lookup) (state : ValueState) (letters : List Char) (mode : ValueMode) :
    ValueState :=
  ⟨state.output ++ ((lookup (String.ofList letters)).getD "").toList, mode⟩

/-- Reads one character of a value. -/
def next (lookup : Lookup) (state : ValueState) (c : Char) : Option ValueState :=
  match state.mode with
  | .comment => some state
  | .behind =>
    if c = ' ' || c = '\t' then some state
    else if c = '#' then some { state with mode := .comment }
    else none
  | .escape weak =>
    if c = 'n' then some (state.push '\n' (.value weak))
    else if ['\x5c', '\x27', '\x22', '$', ' '].contains c then some (state.push c (.value weak))
    else none
  | .strong =>
    if c = '\x27' then some { state with mode := .value false } else some (state.push c .strong)
  | .name weak letters =>
    if Text.isAlphanumeric c then some { state with mode := .name weak (letters ++ [c]) }
    else if c = '\x7b' && letters.isEmpty then some { state with mode := .braced weak [] }
    else if c = '$' then some (state.substitute lookup letters (.name weak []))
    else some ((state.substitute lookup letters (.value weak)).push c (.value weak))
  | .braced weak letters =>
    if c = '\x7d' then some (state.substitute lookup letters (.value weak))
    else some { state with mode := .braced weak (letters ++ [c]) }
  | .value weak =>
    if c = '$' then some { state with mode := .name weak [] }
    else if c = '\x5c' then some { state with mode := .escape weak }
    else if c = '\x22' then some { state with mode := .value (!weak) }
    else if weak then some (state.push c (.value true))
    else if c = '\x27' then some { state with mode := .strong }
    else if c = ' ' || c = '\t' then some { state with mode := .behind }
    else some (state.push c (.value false))

/-- The value, if it ends in good order: outside quote marks and braces. -/
def finish (lookup : Lookup) (state : ValueState) : Option (List Char) :=
  match state.mode with
  | .name false letters => some (state.substitute lookup letters .behind).output
  | .value false | .escape false | .behind | .comment => some state.output
  | _ => none

end ValueState

/-- The value of a text behind an equals sign. -/
def value (lookup : Lookup) (text : List Char) : Option (List Char) := do
  (← text.foldlM (ValueState.next lookup) ⟨[], .value false⟩).finish lookup

/-- The characters of a key. -/
def isKeyChar (c : Char) : Bool := c.isAlphanum || c == '_' || c == '.'

/-- A key at the start of a text, and what follows it and the blanks behind it. -/
def key (text : List Char) : Option (List Char × List Char) :=
  match text with
  | c :: _ =>
    if c.isAlpha || c = '_' then
      some (text.takeWhile isKeyChar, Text.trimStart (text.dropWhile isKeyChar))
    else none
  | [] => none

/-- What follows an equals sign at the start of a text. -/
def behindEquals : List Char → Option (List Char)
  | '=' :: rest => some rest
  | _ => none

/-- A key and the text behind its equals sign. The word `export` may stand in front of the key, and
may be a key itself. -/
def keyAndText (text : List Char) : Option (List Char × List Char) := do
  let (first, rest) ← key text
  match behindEquals rest with
  | some behind => return (first, behind)
  | none =>
    if first = "export".toList then
      let (second, rest) ← key rest
      return (second, ← behindEquals rest)
    else none

/-- An assignment: a name and its value. -/
abbrev Assignment := String × String

/-- The assignment of a line; a line without content has none. -/
def assignment (lookup : Lookup) (line : List Char) : Option (Option Assignment) :=
  let text := Text.trimStart (Text.trimEnd line)
  if text.isEmpty || text.head? = some '#' then some none
  else do
    let (name, behind) ← keyAndText text
    let written := Text.trimStart behind
    if written.isEmpty || written.head? = some '#' then return some (String.ofList name, "")
    else return some (String.ofList name, String.ofList (← value lookup written))

/-! ## Files -/

/-- What a name stands for in an environment. A variable's entry is its name, an equals sign and its
value; the first entry that begins with the name and an equals sign answers with what follows. So a
name with an equals sign reaches into a value. -/
def valueOf (environment : List Assignment) (name : String) : Option String :=
  if name.isEmpty then none
  else environment.findSome? fun (key, value) =>
    let sought := name.toList ++ ['=']
    let entry := key.toList ++ '=' :: value.toList
    if sought.isPrefixOf entry then some (String.ofList (entry.drop sought.length)) else none

/-- Whether an environment can hold a value: entries end at the null character. -/
def isStorable (value : String) : Bool := !value.toList.contains '\x00'

/-- An environment with the variables that lines add to it, or nothing if it cannot hold one of
them. A variable of the environment keeps its value, and is what references to its name stand for;
`stored` holds the latest assignments. -/
def extend (environment stored : List Assignment) :
    List (Option (List Char)) → Option (List Assignment)
  | [] | none :: _ => some environment
  | some line :: rest =>
    let lookup : Lookup := fun name => valueOf environment name <|> stored.lookup name
    match assignment lookup line with
    | none => some environment
    | some none => extend environment stored rest
    | some (some (name, value)) =>
      let stored := (name, value) :: stored
      if (valueOf environment name).isSome then extend environment stored rest
      else if isStorable value then extend (environment ++ [(name, value)]) stored rest
      else none

/-- The lines of a file, each with its line feed; `line` holds what has been passed of the current
one, the last byte first. -/
def byteLines (line : List UInt8) : List UInt8 → List (List UInt8)
  | [] => if line.isEmpty then [] else [line.reverse]
  | b :: rest =>
    if b = 0x0A then (b :: line).reverse :: byteLines [] rest else byteLines (b :: line) rest

/-- Bytes without the mark of byte order at their start. -/
def withoutMark : List UInt8 → List UInt8
  | 0xEF :: 0xBB :: 0xBF :: rest => rest
  | bytes => bytes

/-- The text of a line, if its bytes are one. -/
def lineText (bytes : List UInt8) : Option (List Char) :=
  (String.fromUTF8? (ByteArray.mk bytes.toArray)).map String.toList

/-- An environment with the variables of a file that it does not have yet, or nothing if it cannot
hold one of them. -/
def load (environment : List Assignment) (bytes : ByteArray) : Option (List Assignment) :=
  extend environment []
    (joined [] .plain ((byteLines [] (withoutMark bytes.toList)).map lineText))

/-- The longest stretches of a text whose characters all belong to a class. -/
def stretches (class_ : Char → Bool) (stretch : List Char) : List Char → List String
  | [] => [String.ofList stretch.reverse]
  | c :: rest =>
    if class_ c then stretches class_ (c :: stretch) rest
    else String.ofList stretch.reverse :: stretches class_ [] rest

/-- All names that a file can assign or refer to, and others. -/
def mentions (bytes : ByteArray) : List String :=
  let text := ((byteLines [] (withoutMark bytes.toList)).filterMap lineText).flatten
  stretches isKeyChar [] text ++ stretches Text.isAlphanumeric [] text ++
    stretches (fun c => c != '\x7b' && c != '\x7d') [] text

end Traversal.Dotenv
