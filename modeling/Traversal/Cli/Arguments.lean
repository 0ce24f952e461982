import Traversal.Text.Position

/-! Arguments: what a command line asks for. Options and flags may stand anywhere behind the command
and are given at most once; behind two dashes everything is a query. -/
namespace Traversal.Cli

/-- Where the query comes from: a text, or a file. -/
structure QuerySource where
  text : Option String := none
  file : Option String := none
  deriving Repr, DecidableEq

/-- What a command line says about the compilation. -/
structure Choices where
  config : Option String := none
  schema : Option String := none
  rules : Option String := none
  maxNodeCount : Option Nat := none
  validateStructure : Bool := false
  aggregate : Bool := false
  deriving Repr, DecidableEq

/-- A command: to compile a query, to check it, or to list its events. -/
inductive Command
  | compile (source : QuerySource) (choices : Choices) (json : Bool)
  | check (source : QuerySource) (choices : Choices)
  | events (source : QuerySource)
  deriving Repr, DecidableEq

/-- What a command line asks for: a command, the version, help, or nothing that makes sense. -/
inductive Wish
  | command (quiet verbose : Bool) (command : Command)
  | version
  | help
  | senseless
  deriving Repr, DecidableEq

namespace Arguments

/-- The commands. -/
inductive Verb
  | compile
  | check
  | events
  deriving Repr, DecidableEq

/-- The command of a name. -/
def Verb.ofName : String → Option Verb
  | "compile" => some .compile
  | "check" => some .check
  | "events" => some .events
  | _ => none

/-- What can be switched on or given. -/
inductive Item
  | quiet
  | verbose
  | help
  | file
  | config
  | schema
  | rules
  | maxNodeCount
  | validateStructure
  | aggregate
  | json
  deriving Repr, DecidableEq

namespace Item

/-- Whether an item comes with a value. -/
def takesValue : Item → Bool
  | .file | .config | .schema | .rules | .maxNodeCount => true
  | _ => false

/-- Whether a command knows an item. -/
def servesFor (verb : Verb) : Item → Bool
  | .quiet | .verbose | .help | .file => true
  | .json => verb = .compile
  | _ => verb != .events

/-- The item of a long name. -/
def ofLong : String → Option Item
  | "quiet" => some .quiet
  | "verbose" => some .verbose
  | "help" => some .help
  | "file" => some .file
  | "config" => some .config
  | "schema" => some .schema
  | "rules" => some .rules
  | "max-node-count" => some .maxNodeCount
  | "validate-structure" => some .validateStructure
  | "aggregate" => some .aggregate
  | "json" => some .json
  | _ => none

/-- The item of a letter. -/
def ofShort : Char → Option Item
  | 'q' => some .quiet
  | 'v' => some .verbose
  | 'h' => some .help
  | 'f' => some .file
  | 'c' => some .config
  | 's' => some .schema
  | 'r' => some .rules
  | _ => none

end Item

/-- What the arguments of a command have said so far. -/
structure Given where
  items : List Item := []
  source : QuerySource := {}
  choices : Choices := {}
  deriving Repr, DecidableEq

/-- Why the reading of arguments stops early. -/
inductive Stop
  | version
  | help
  | senseless
  deriving Repr, DecidableEq

/-- The wish that is left when the reading stops. -/
def Stop.wish : Stop → Wish
  | .version => .version
  | .help => .help
  | .senseless => .senseless

namespace Given

/-- Takes note of an item, which must not have been given before. -/
def note (given : Given) (item : Item) : Except Stop Given :=
  if given.items.contains item then .error .senseless
  else .ok { given with items := item :: given.items }

/-- Switches an item on. -/
def switchOn (given : Given) (item : Item) : Except Stop Given :=
  if item = .help then .error .help
  else do
    let noted ← given.note item
    match item with
    | .validateStructure =>
      return { noted with choices := { noted.choices with validateStructure := true } }
    | .aggregate => return { noted with choices := { noted.choices with aggregate := true } }
    | _ => return noted

/-- The path that a value is; it must not be empty. -/
def path (value : String) : Except Stop (Option String) :=
  if value.isEmpty then .error .senseless else .ok (some value)

/-- Gives an item its value. -/
def assign (given : Given) (item : Item) (value : String) : Except Stop Given := do
  let noted ← given.note item
  match item with
  | .file => return { noted with source := { noted.source with file := ← path value } }
  | .config => return { noted with choices := { noted.choices with config := ← path value } }
  | .schema => return { noted with choices := { noted.choices with schema := ← path value } }
  | .rules => return { noted with choices := { noted.choices with rules := some value } }
  | .maxNodeCount =>
    match Text.boundedNatural Text.countBound value.toList with
    | some count =>
      return { noted with choices := { noted.choices with maxNodeCount := some count } }
    | none => .error .senseless
  | _ => .error .senseless

/-- Gives the query, of which there is at most one. -/
def query (given : Given) (text : String) : Except Stop Given :=
  match given.source.text with
  | some _ => .error .senseless
  | none => .ok { given with source := { given.source with text := some text } }

end Given

/-- The forms that an argument can take: two dashes, a long name with the value behind an equals
sign, letters behind a dash, or a word. A single dash is a word. -/
inductive Form
  | dashes
  | long (name : String) (value : Option String)
  | short (letters : List Char)
  | word
  deriving Repr, DecidableEq

/-- The form of an argument. -/
def Form.of (argument : String) : Form :=
  match argument.toList with
  | ['-', '-'] => .dashes
  | '-' :: '-' :: rest =>
    let name := String.ofList (rest.takeWhile (· != '='))
    match rest.dropWhile (· != '=') with
    | _ :: value => .long name (some (String.ofList value))
    | [] => .long name none
  | ['-'] => .word
  | '-' :: letters => .short letters
  | _ => .word

/-- Reads letters behind a dash. A letter whose item takes a value takes the other letters as its
value, without an equals sign in front; if there are none, the item still waits for it. -/
def readLetters (verb : Verb) (given : Given) : List Char → Except Stop (Given × Option Item)
  | [] => .ok (given, none)
  | letter :: rest =>
    match Item.ofShort letter with
    | none => .error .senseless
    | some item =>
      if !item.servesFor verb then .error .senseless
      else if item.takesValue then
        match rest with
        | [] => .ok (given, some item)
        | '=' :: value => do return (← given.assign item (String.ofList value), none)
        | value => do return (← given.assign item (String.ofList value), none)
      else do readLetters verb (← given.switchOn item) rest

/-- Reads an item by its long name, with the value that stands behind an equals sign. -/
def readLong (verb : Verb) (given : Given) (name : String) (value : Option String) :
    Except Stop (Given × Option Item) :=
  match Item.ofLong name with
  | none => .error .senseless
  | some item =>
    if !item.servesFor verb then .error .senseless
    else match item.takesValue, value with
      | true, some value => do return (← given.assign item value, none)
      | true, none => .ok (given, some item)
      | false, some _ => .error .senseless
      | false, none => do return (← given.switchOn item, none)

/-- Reads the arguments of a command. `waiting` is an item whose value has to come next. -/
def read (verb : Verb) (given : Given) (waiting : Option Item) :
    List String → Except Stop Given
  | [] => if waiting.isSome then .error .senseless else .ok given
  | argument :: rest =>
    match waiting, Form.of argument with
    | some item, .word => do read verb (← given.assign item argument) none rest
    | some _, _ => .error .senseless
    | none, .dashes => rest.foldlM Given.query given
    | none, .long name value => do
      let (given, waiting) ← readLong verb given name value
      read verb given waiting rest
    | none, .short letters => do
      let (given, waiting) ← readLetters verb given letters
      read verb given waiting rest
    | none, .word => do read verb (← given.query argument) none rest

/-- The command that its arguments describe. The query is a text or in a file, but not both. -/
def command (verb : Verb) (given : Given) : Except Stop Command :=
  if given.source.text.isSome && given.source.file.isSome then .error .senseless
  else .ok <| match verb with
    | .compile => .compile given.source given.choices (given.items.contains .json)
    | .check => .check given.source given.choices
    | .events => .events given.source

/-- The flags in front of a command. -/
structure Flags where
  quiet : Bool := false
  verbose : Bool := false
  deriving Repr, DecidableEq

namespace Flags

/-- Switches a flag on, which must not be on yet. -/
def switchOn (flags : Flags) : String → Except Stop Flags
  | "quiet" => if flags.quiet then .error .senseless else .ok { flags with quiet := true }
  | "verbose" => if flags.verbose then .error .senseless else .ok { flags with verbose := true }
  | "help" => .error .help
  | "version" => .error .version
  | _ => .error .senseless

/-- The flag of a letter. -/
def longName : Char → String
  | 'q' => "quiet"
  | 'v' => "verbose"
  | 'h' => "help"
  | 'V' => "version"
  | _ => ""

end Flags

/-- Help on a command, on all commands, or on getting help. -/
def readHelp : List String → Stop
  | [] | ["help"] => .help
  | [name] => if (Verb.ofName name).isSome then .help else .senseless
  | _ => .senseless

/-- Reads a command and its arguments behind the flags in front of it. -/
def readCommand (flags : Flags) (name : String) (arguments : List String) : Except Stop Wish :=
  match Verb.ofName name with
  | none => .error (if name = "help" then readHelp arguments else .senseless)
  | some verb => do
    let given ← read verb {} none arguments
    let command ← command verb given
    return .command (flags.quiet || given.items.contains .quiet)
      (flags.verbose || given.items.contains .verbose) command

/-- Reads a command line from the flags in front of its command. -/
def readAll (flags : Flags) : List String → Except Stop Wish
  | [] => .error .senseless
  | argument :: rest =>
    match Form.of argument with
    | .dashes | .long _ (some _) => .error .senseless
    | .long name none => do readAll (← flags.switchOn name) rest
    | .short letters => do
      readAll (← letters.foldlM (fun flags letter => flags.switchOn (Flags.longName letter)) flags)
        rest
    | .word => readCommand flags argument rest

/-- What a command line asks for. -/
def wish (arguments : List String) : Wish :=
  match readAll {} arguments with
  | .ok wish => wish
  | .error stop => stop.wish

end Arguments

end Traversal.Cli
