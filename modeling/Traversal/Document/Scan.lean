/-! Scanning: taking a text apart from its start, where all that matters about a failure is that it
happened. -/
namespace Traversal.Document

/-- A recogniser of beginnings of texts: the value that it finds and the text that is left. -/
abbrev Scan := StateT (List Char) Option

namespace Scan

variable {α : Type}

/-- Recognises nothing. -/
def fail : Scan α := fun _ => none

/-- The first scan, or the second from the same place if the first fails. -/
def either (first second : Scan α) : Scan α := fun text =>
  match first text with
  | some found => some found
  | none => second text

/-- The scan's value if it succeeds, and the empty text otherwise. -/
def maybe (scan : Scan α) : Scan (Option α) := either (some <$> scan) (pure none)

/-- The next character. -/
def next : Scan Char
  | c :: rest => some (c, rest)
  | [] => none

/-- The next character, which has to belong to a class. -/
def oneOf (class_ : Char → Bool) : Scan Char := do
  let c ← next
  if class_ c then pure c else fail

/-- One given character. -/
def symbol (c : Char) : Scan Unit := do
  let _ ← oneOf (· == c)

/-- A given sequence of characters. -/
def word (letters : List Char) : Scan Unit := fun text =>
  if letters.isPrefixOf text then some ((), text.drop letters.length) else none

/-- The longest text, possibly empty, whose characters all belong to a class. -/
def run (class_ : Char → Bool) : Scan (List Char) := fun text =>
  some (text.takeWhile class_, text.dropWhile class_)

/-- The longest text of at least one character whose characters all belong to a class. -/
def run1 (class_ : Char → Bool) : Scan (List Char) := do
  let taken ← run class_
  if taken.isEmpty then fail else pure taken

/-- A given number of characters of a class. -/
def exactly (count : Nat) (class_ : Char → Bool) : Scan (List Char) := fun text =>
  let taken := text.take count
  if taken.length = count && taken.all class_ then some (taken, text.drop count) else none

/-- The end of the text. -/
def finished : Scan Unit
  | [] => some ((), [])
  | _ => none

/-- As many items as there are, one after the other, but no more than `bound` has characters. There
are none at the end of the text. -/
def manyWithin (item : Scan α) : List Char → List Char → List α × List Char
  | _ :: bound, text@(_ :: _) =>
    match item text with
    | some (value, rest) =>
      let (others, left) := manyWithin item bound rest
      (value :: others, left)
    | none => ([], text)
  | _, text => ([], text)

/-- As many items as there are, one after the other. Every item takes at least one character, so the
text itself bounds their number. -/
def many (item : Scan α) : Scan (List α) := fun text => some (manyWithin item text text)

/-- Items with separators between them, possibly none. -/
def separated (item : Scan α) (separator : Scan Unit) : Scan (List α) := do
  match ← maybe item with
  | none => pure []
  | some first =>
    let others ← many (do separator; item)
    pure (first :: others)

/-- What the scan finds if it takes the whole text. -/
def whole (scan : Scan α) (text : List Char) : Option α :=
  match scan text with
  | some (value, []) => some value
  | _ => none

/-- The value of a hexadecimal digit. -/
def hexValue (c : Char) : Nat :=
  if c.isDigit then c.toNat - '0'.toNat else c.toLower.toNat - 'a'.toNat + 10

/-- The digits of the hexadecimal system, in letters of either case. -/
def isHexDigit (c : Char) : Bool :=
  c.isDigit || ('a' ≤ c.toLower && c.toLower ≤ 'f')

/-- The number that digits denote in a system. -/
def valueOfDigits (base : Nat) (digits : List Char) : Nat :=
  digits.foldl (fun value c => base * value + hexValue c) 0

/-- A code point in a given number of hexadecimal digits. -/
def codePoint (count : Nat) : Scan Nat := do
  return valueOfDigits 16 (← exactly count isHexDigit)

/-- The character of a code point, which must not be a surrogate. -/
def character (code : Nat) : Scan Char :=
  if code.isValidChar then pure (Char.ofNat code) else fail

end Scan

end Traversal.Document
