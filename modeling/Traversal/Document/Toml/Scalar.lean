import Traversal.Document.Data
import Traversal.Document.Scan

/-! The bare values of TOML: truth values, numbers and moments in time. -/
namespace Traversal.Document.Toml
open Scan

/-- A plus or a minus sign, if there is one; whether it is a minus sign. -/
def sign : Scan Bool := do
  match ← maybe (oneOf fun c => c == '+' || c == '-') with
  | some c => return c == '-'
  | none => return false

/-- A group of digits behind an underscore. -/
def digitGroup (isDigit : Char → Bool) : Scan (List Char) := do
  symbol '_'
  run1 isDigit

/-- Digits, among which single underscores may stand. -/
def digits (isDigit : Char → Bool) : Scan (List Char) := do
  let first ← run1 isDigit
  let groups ← many (digitGroup isDigit)
  return first ++ groups.flatten

/-- Decimal digits without a leading zero. -/
def decimalDigits : Scan (List Char) := do
  let found ← digits Char.isDigit
  if found.head? = some '0' && found.length ≠ 1 then fail else pure found

/-- An integer has to lie between -2^127 and 2^128. -/
def integerInRange (value : Int) : Scan Data :=
  if -(Int.pow 2 127) ≤ value && value < Int.pow 2 128 then pure (.integer value) else fail

/-- An integer in a system other than the decimal one, without a sign. -/
def radixInteger (mark : Char) (base : Nat) (isDigit : Char → Bool) : Scan Data := do
  word ['0', mark]
  integerInRange (valueOfDigits base (← digits isDigit))

/-- A decimal integer. -/
def decimalInteger : Scan Data := do
  let negative ← sign
  let value := valueOfDigits 10 (← decimalDigits)
  integerInRange (if negative then -value else value)

/-- An integer. -/
def integer : Scan Data :=
  either (radixInteger 'x' 16 isHexDigit) <|
    either (radixInteger 'o' 8 fun c => '0' ≤ c && c ≤ '7') <|
      either (radixInteger 'b' 2 fun c => c == '0' || c == '1') decimalInteger

/-- The digits behind a decimal point. -/
def decimals : Scan (List Char) := do
  symbol '.'
  digits Char.isDigit

/-- The exponent of a number. -/
def exponent : Scan Int := do
  let _ ← oneOf fun c => c == 'e' || c == 'E'
  let negative ← sign
  let size := valueOfDigits 10 (← digits Char.isDigit)
  return if negative then -size else size

/-- The least number that is too large for a binary floating-point number of 64 bits: half a unit in
the last place above the greatest such number. -/
def floatBound : Nat := Nat.pow 2 1024 - Nat.pow 2 970

/-- Whether `size` times ten to the power `power` is too large for a floating-point number. From
more than 400 digits in front of the point the answer is plain. -/
def overflows (size : Nat) (power : Int) : Bool :=
  if size = 0 then false
  else if power < 0 then floatBound * Nat.pow 10 (min (-power).toNat (size + 1).log2) ≤ size
  else 400 < power || floatBound ≤ size * Nat.pow 10 power.toNat

/-- A number with decimals or an exponent. -/
def fraction : Scan Data := do
  let _ ← sign
  let whole ← decimalDigits
  let behind ← maybe decimals
  let power ← maybe exponent
  let places := behind.getD []
  if behind.isNone && power.isNone then fail
  else if overflows (valueOfDigits 10 (whole ++ places)) (power.getD 0 - places.length) then fail
  else pure .fraction

/-- The words for values that are no numbers in the narrow sense. -/
def unnumbered : Scan Data := do
  let _ ← sign
  either (word "inf".toList) (word "nan".toList)
  pure .fraction

/-- A number of two digits in a range. -/
def twoDigits (least greatest : Nat) : Scan Nat := do
  let value := valueOfDigits 10 (← exactly 2 Char.isDigit)
  if least ≤ value && value ≤ greatest then pure value else fail

/-- The number of days of a month. -/
def daysIn (year month : Nat) : Nat :=
  if month = 2 then
    if year % 4 = 0 && (year % 100 ≠ 0 || year % 400 = 0) then 29 else 28
  else if [4, 6, 9, 11].contains month then 30
  else 31

/-- A day of the calendar. -/
def date : Scan Unit := do
  let year := valueOfDigits 10 (← exactly 4 Char.isDigit)
  symbol '-'
  let month ← twoDigits 1 12
  symbol '-'
  let _ ← twoDigits 1 (daysIn year month)

/-- The seconds of a time, with their fractions. The second 60 is a leap second. -/
def seconds : Scan Unit := do
  symbol ':'
  let _ ← twoDigits 0 60
  let _ ← maybe do
    symbol '.'
    run1 Char.isDigit

/-- A time of the day, with or without seconds. -/
def time : Scan Unit := do
  let _ ← twoDigits 0 23
  symbol ':'
  let _ ← twoDigits 0 59
  let _ ← maybe seconds

/-- The distance of a clock from universal time. -/
def offset : Scan Unit :=
  either (do let _ ← oneOf fun c => c == 'Z' || c == 'z') do
    let _ ← oneOf fun c => c == '+' || c == '-'
    let _ ← twoDigits 0 23
    symbol ':'
    let _ ← twoDigits 0 59

/-- The time behind a date. -/
def timeOfDate : Scan Unit := do
  let _ ← oneOf fun c => c == 'T' || c == 't' || c == ' '
  time
  let _ ← maybe offset

/-- A date, a time, or both. -/
def moment : Scan Data := do
  either (do date; let _ ← maybe timeOfDate) time
  pure .moment

/-- The words for truth values. -/
def boolean : Scan Data :=
  either (do word "true".toList; pure (.boolean true)) do
    word "false".toList
    pure (.boolean false)

/-- The characters at which a bare value ends. -/
def isScalarEnd (c : Char) : Bool := [' ', '\t', '\n', '\r', ',', ']', '\x7d', '#'].contains c

/-- Recognises the empty text in front of the end of a bare value. -/
def scalarEnd : Scan Unit := fun text =>
  match text with
  | c :: _ => if isScalarEnd c then some ((), text) else none
  | [] => some ((), text)

/-- A bare value that ends where it seems to. -/
def ended (scan : Scan Data) : Scan Data := do
  let data ← scan
  scalarEnd
  return data

/-- A bare value. -/
def scalar : Scan Data :=
  either (ended boolean) <| either (ended moment) <| either (ended integer) <|
    either (ended fraction) (ended unnumbered)

end Traversal.Document.Toml
