import Traversal.Document.Data
import Traversal.Document.Scan

/-! The format JSON, without any leniency for values that count: no comments, no trailing commas, no
raw control characters in texts, and nothing but blanks around the one value. Escapes that denote no
character do no harm in a value that nobody looks at. -/
namespace Traversal.Document.Json
open Scan

/-- Blanks between the parts of a value. -/
def isBlank (c : Char) : Bool := c == ' ' || c == '\t' || c == '\n' || c == '\r'

/-- What the scan finds behind blanks. -/
def spaced {α : Type} (scan : Scan α) : Scan α := do
  let _ ← run isBlank
  scan

/-- The character written as two halves, of which the first has been read. -/
def lowHalf (high : Nat) : Scan Char := do
  word ['\x5c', 'u']
  let low ← codePoint 4
  if 0xDC00 ≤ low && low ≤ 0xDFFF then
    character (0x10000 + (high - 0xD800) * 0x400 + (low - 0xDC00))
  else fail

/-- The character of a code point behind a backslash and its letter. -/
def codeCharacter : Scan Char := do
  let code ← codePoint 4
  if 0xD800 ≤ code && code ≤ 0xDBFF then lowHalf code else character code

/-- Passes over characters that take at least a given number of octets together. -/
def octets : Nat → Scan Unit
  | 0, text => some ((), text)
  | _ + 1, [] => none
  | count + 1, c :: rest => octets (count + 1 - c.utf8Size) rest

/-- What stands behind a backslash. Where a code point belongs, any four octets may stand; unless
they denote a character they are passed over, and the text cannot be read. -/
def escaped : Scan (Option Char) := do
  match ← next with
  | '\x22' => pure (some '\x22')
  | '\x5c' => pure (some '\x5c')
  | '/' => pure (some '/')
  | 'b' => pure (some '\x08')
  | 'f' => pure (some '\x0c')
  | 'n' => pure (some '\n')
  | 'r' => pure (some '\r')
  | 't' => pure (some '\t')
  | 'u' => either (some <$> codeCharacter) do
    octets 4
    pure none
  | _ => fail

/-- One character of a text, in its written form. -/
def textCharacter : Scan (Option Char) := do
  let c ← oneOf fun c => c != '\x22' && 0x20 ≤ c.toNat
  if c = '\x5c' then escaped else pure (some c)

/-- A text between quote marks, if it can be read. -/
def text : Scan (Option String) := do
  symbol '\x22'
  let characters ← many textCharacter
  symbol '\x22'
  return (characters.mapM id).map String.ofList

/-- The digits of a whole number: a single zero, or digits that do not begin with one. -/
def wholeDigits : Scan (List Char) := do
  let digits ← run1 Char.isDigit
  if digits.head? = some '0' && digits.length ≠ 1 then fail else pure digits

/-- The digits behind a decimal point. -/
def decimals : Scan (List Char) := do
  symbol '.'
  run1 Char.isDigit

/-- The exponent of a number. -/
def exponent : Scan (List Char) := do
  let _ ← oneOf fun c => c == 'e' || c == 'E'
  let _ ← maybe (oneOf fun c => c == '+' || c == '-')
  run1 Char.isDigit

/-- A number. Only whole numbers without decimals and exponent are integers; minus zero is none. -/
def number : Scan Data := do
  let sign ← maybe (symbol '-')
  let digits ← wholeDigits
  let fraction ← maybe decimals
  let power ← maybe exponent
  let size := valueOfDigits 10 digits
  if fraction.isSome || power.isSome then pure .fraction
  else if sign.isNone then pure (.integer size)
  else if size = 0 then pure .fraction
  else pure (.integer (-size))

section

variable (inner : Scan Data)

/-- A list between brackets. -/
def list : Scan Data := do
  symbol '['
  let items ← separated (spaced inner) (spaced (symbol ','))
  spaced (symbol ']')
  return .list items

/-- A key, if it can be read, and its value. -/
def entry : Scan (Option (String × Data)) := do
  let key ← spaced text
  spaced (symbol ':')
  let data ← spaced inner
  return key.map fun key => (key, data)

/-- A record between braces. -/
def record : Scan Data := do
  symbol '\x7b'
  let entries ← separated (entry inner) (spaced (symbol ','))
  spaced (symbol '\x7d')
  return ((entries.mapM id).map Data.record).getD .unreadable

/-- A text as a value. -/
def textData : Scan Data := do
  return ((← text).map Data.text).getD .unreadable

/-- A value whose own values are scanned by `inner`. -/
def valueWith : Scan Data :=
  either (record inner) <| either (list inner) <| either textData <| either number <|
    either (do word "true".toList; pure (.boolean true)) <|
      either (do word "false".toList; pure (.boolean false)) do
        word "null".toList
        pure .null

end

/-- A value whose values are nested at most `depth` deep. -/
def value : Nat → Scan Data
  | 0 => fail
  | depth + 1 => valueWith (value depth)

/-- A value with nothing but blanks around it. -/
def document (depth : Nat) : Scan Data := do
  let data ← spaced (value depth)
  spaced finished
  return data

/-- The value of a text. Every nested value takes at least one character, so the length of the text
bounds their nesting. -/
def parse (text : List Char) : Option Data := Scan.whole (document (text.length + 1)) text

end Traversal.Document.Json
