import Traversal.Text.Lowercase.Table

/-! Full lower-casing of a text. Two capitals need more than a look-up: the dotted capital I becomes
two characters, and a capital sigma becomes the final form at the end of a word. -/
namespace Traversal.Text.Lowercase

/-- A run maps the code points that lie in it at a whole number of strides. -/
def Run.contains (run : Run) (code : Nat) : Bool :=
  run.first ≤ code && code ≤ run.last && (code - run.first) % run.stride == 0

/-- The small form of a character, apart from sigma at the end of a word. -/
def letter (c : Char) : List Char :=
  if c.toNat = 0x0130 then ['i', '\u0307']
  else match runs.find? (·.contains c.toNat) with
    | some run => [Char.ofNat (c.toNat + run.up - run.down)]
    | none => [c]

/-- The first character that does not merely continue a word is a letter with case. -/
def meetsCased (text : List Char) : Bool :=
  match text.dropWhile (inRanges caseIgnorable) with
  | c :: _ => inRanges cased c
  | [] => false

/-- Lower-casing with the characters already passed in `before`, the nearest first. -/
def after (before : List Char) : List Char → List Char
  | [] => []
  | c :: rest =>
    (if c = 'Σ' then [if meetsCased before && !meetsCased rest then 'ς' else 'σ'] else letter c)
      ++ after (c :: before) rest

end Traversal.Text.Lowercase

namespace Traversal.Text

/-- The text in small letters. -/
def lowercase (text : String) : String := String.ofList (Lowercase.after [] text.toList)

end Traversal.Text
