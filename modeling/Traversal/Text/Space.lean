import Traversal.Text.Ranges

/-! White space of running text: the Unicode property White_Space, and text without white space at
its ends. Neither the byte order mark nor the zero-width space belongs to it. -/
namespace Traversal.Text

/-- The ranges of the property White_Space. -/
def spaceRanges : List CodeRange := [
  (0x0009, 0x000D), (0x0020, 0x0020), (0x0085, 0x0085), (0x00A0, 0x00A0), (0x1680, 0x1680),
  (0x2000, 0x200A), (0x2028, 0x2029), (0x202F, 0x202F), (0x205F, 0x205F), (0x3000, 0x3000)]

/-- White space in the sense of Unicode. -/
def isSpace (c : Char) : Bool := inRanges spaceRanges c

/-- The text from its first character that is no white space. -/
def trimStart (text : List Char) : List Char := text.dropWhile isSpace

/-- The text up to its last character that is no white space. -/
def trimEnd (text : List Char) : List Char := (text.reverse.dropWhile isSpace).reverse

/-- The text without the white space at its two ends. -/
def trim (text : String) : String := String.ofList (trimEnd (trimStart text.toList))

end Traversal.Text
