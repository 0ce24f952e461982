/-! Quoted text: a text between quote marks, in which a backslash makes the next character stand for
itself. Writing escapes quote marks and backslashes only; reading accepts any escaped character. -/
namespace Traversal.Text.Quoted

/-- The character that opens and closes a quoted text. -/
def mark : Char := '\x27'

/-- The character that makes the next one stand for itself. -/
def escape : Char := '\x5c'

/-- The characters that must be escaped between the marks. -/
def isSpecial (c : Char) : Bool := c == mark || c == escape

/-- The written form of a text between the marks. -/
def encode : List Char → List Char
  | [] => []
  | c :: rest => if isSpecial c then escape :: c :: encode rest else c :: encode rest

/-- The text for which a written form stands. -/
def decode : List Char → List Char
  | [] => []
  | [c] => if c = escape then [] else [c]
  | c :: d :: rest => if c = escape then d :: decode rest else c :: decode (d :: rest)

/-- The longest written form at the start of a text, and what follows it: the form ends before a
mark that is not escaped, before an escape with nothing after it, or with the text. -/
def split : List Char → List Char × List Char
  | [] => ([], [])
  | [c] => if isSpecial c then ([], [c]) else ([c], [])
  | c :: d :: rest =>
    if c = mark then ([], c :: d :: rest)
    else if c = escape then ((c :: d :: (split rest).1), (split rest).2)
    else ((c :: (split (d :: rest)).1), (split (d :: rest)).2)

/-- A text with its marks. -/
def quote (text : List Char) : List Char := mark :: (encode text ++ [mark])

end Traversal.Text.Quoted
