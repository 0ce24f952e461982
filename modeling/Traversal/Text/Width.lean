import Traversal.Text.Width.Table

/-! The number of terminal columns that a character takes. -/
namespace Traversal.Text

/-- No column for a combining character, two for a wide one, three for the Khmer sign beyyal, which
stands for a word of its own, and one for any other. -/
def charWidth (c : Char) : Nat :=
  if c = '\u17d8' then 3
  else if inRanges Width.zero c then 0
  else if inRanges Width.wide c then 2
  else 1

end Traversal.Text
