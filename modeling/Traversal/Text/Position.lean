/-! Positions in a text: counted in bytes of its UTF-8 form, or as a line and a column in
characters. -/
namespace Traversal.Text

/-- The number of bytes of a text in UTF-8. -/
def byteLength (text : List Char) : Nat := text.foldr (fun c length => c.utf8Size + length) 0

/-- The line and the column, both from one, of the place behind a text. A line feed ends a line; a
carriage return counts as a character of its line. -/
def lineAndColumn (before : List Char) : Nat × Nat :=
  (1 + before.count '\n', 1 + (before.reverse.takeWhile (· != '\n')).length)

/-- The whole number that decimal digits denote. -/
def naturalOfDigits (digits : List Char) : Nat :=
  digits.foldl (fun value d => 10 * value + (d.toNat - '0'.toNat)) 0

/-- The number that a text denotes, if it is an optional plus sign and then decimal digits, and the
number is below a bound. -/
def boundedNatural (bound : Nat) (text : List Char) : Option Nat :=
  let digits := match text with
    | '+' :: rest => rest
    | other => other
  if digits.isEmpty || !digits.all Char.isDigit then none
  else if naturalOfDigits digits < bound then some (naturalOfDigits digits) else none

/-- The bound below which all counts lie. -/
def countBound : Nat := 0x10000000000000000

end Traversal.Text
