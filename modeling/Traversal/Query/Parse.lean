import Traversal.Query.Events
import Traversal.Query.Grammar
import Traversal.Text.Position

/-! Parsing: the query tree of a text, or the reason why it has none. -/
namespace Traversal

/-- A stretch of a text in bytes, with the line and column at which it starts. -/
structure Place where
  start : Nat
  stop : Nat
  line : Nat
  column : Nat
  deriving Repr, DecidableEq

/-- What a user is told about a text that is no query: a message, and where it applies. -/
structure Diagnostic where
  detail : String
  place : Option Place
  deriving Repr, DecidableEq

/-- The message with its position. -/
def Diagnostic.message (diagnostic : Diagnostic) : String :=
  match diagnostic.place with
  | some place =>
    s!"Parse error at line {place.line}, column {place.column}: {diagnostic.detail}"
  | none => s!"Parse error: {diagnostic.detail}"

/-- Why a text is no query: something else was expected behind the text `before`, or its
limit does not fit a count. -/
inductive ParseError
  | unexpected (before : List Char) (expected : List Construct)
  | limitTooLarge (digits : String)
  deriving Repr, DecidableEq

/-- What a user is told about the error. A syntax error marks the byte at which it stands. -/
def ParseError.diagnostic : ParseError → Diagnostic
  | .unexpected before expected =>
    let offset := Text.byteLength before
    let (line, column) := Text.lineAndColumn before
    ⟨Construct.expectation expected, some ⟨offset, offset + 1, line, column⟩⟩
  | .limitTooLarge digits => ⟨s!"Invalid limit `{digits}`", none⟩

namespace Query

/-- The limit that digits denote, which has to fit a count. -/
def limitOfDigits : Option (List Char) → Except ParseError (Option Nat)
  | none => .ok none
  | some digits =>
    let count := Text.naturalOfDigits digits
    if count < Text.countBound then .ok (some count)
    else .error (.limitTooLarge (String.ofList digits))

/-- The query tree of a text. Every nested statement takes at least one character, so the length of
the text bounds their nesting. -/
def parse (text : List Char) : Except ParseError Query :=
  let reading := Grammar.query (text.length + 1) ⟨0, text⟩
  match reading.found with
  | some ((root, hops, digits), _) => do return ⟨root, hops, ← limitOfDigits digits⟩
  | none =>
    let attempts := reading.tried Attempts.none
    .error (.unexpected (text.take attempts.index) attempts.constructs)

end Query

/-- The stream of the query that a text stands for. -/
def parseEvents (text : String) : Except ParseError (List Event) :=
  (Query.parse text.toList).map Query.events

/-- An accepted stream is the stream of the tree that the text was parsed to. -/
theorem parse_of_parseEvents {text : String} {events : List Event}
    (accepted : parseEvents text = .ok events) :
    ∃ query, Query.parse text.toList = .ok query ∧ query.events = events := by
  unfold parseEvents at accepted
  cases parsed : Query.parse text.toList with
  | error error => rw [parsed] at accepted; cases accepted
  | ok query =>
    rw [parsed] at accepted
    cases accepted
    exact ⟨query, rfl, rfl⟩

/-- An error is one of parsing: the stream of a tree never fails. -/
theorem parseEvents_eq_error_iff (text : String) (error : ParseError) :
    parseEvents text = .error error ↔ Query.parse text.toList = .error error := by
  rw [parseEvents]
  cases Query.parse text.toList with
  | error other => simp only [Except.map, Except.error.injEq]
  | ok query => simp only [Except.map, reduceCtorEq]

end Traversal
