/-! Texts as JSON writes them. -/
namespace Traversal.Document.Json

/-- A hexadecimal digit, in small letters. -/
def hexDigit (n : Nat) : Char := if n < 10 then Char.ofNat (48 + n) else Char.ofNat (87 + n)

/-- The written form of a character. Only quote marks, backslashes and control characters are
escaped, where there is a short form by it. -/
def quoteCharacter (c : Char) : List Char :=
  match c with
  | '\x22' => ['\x5c', '\x22']
  | '\x5c' => ['\x5c', '\x5c']
  | '\x08' => ['\x5c', 'b']
  | '\x0c' => ['\x5c', 'f']
  | '\n' => ['\x5c', 'n']
  | '\r' => ['\x5c', 'r']
  | '\t' => ['\x5c', 't']
  | c =>
    if c.toNat < 0x20 then
      ['\x5c', 'u', '0', '0', hexDigit (c.toNat / 16), hexDigit (c.toNat % 16)]
    else [c]

/-- A text between quote marks. -/
def quote (text : String) : String :=
  String.ofList ('\x22' :: (text.toList.flatMap quoteCharacter ++ ['\x22']))

end Traversal.Document.Json
