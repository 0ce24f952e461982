import Traversal.Text.Position

/-! Boundaries: the offsets, in bytes, that lie between two characters of a text or at one of its
ends. An offset inside a character can be moved to the boundary on either side. -/
namespace Traversal.Text

/-- An offset is a boundary when it is the length of some beginning of the text. -/
def IsBoundary (text : List Char) (offset : Nat) : Prop :=
  ∃ count, offset = byteLength (text.take count)

/-- The last boundary that is not behind an offset. -/
def floorBoundary : List Char → Nat → Nat
  | [], _ => 0
  | c :: rest, offset =>
    if offset < c.utf8Size then 0
    else c.utf8Size + floorBoundary rest (offset - c.utf8Size)

/-- The first boundary that is not in front of an offset, or the end of the text. -/
def ceilBoundary : List Char → Nat → Nat
  | [], _ => 0
  | c :: rest, offset =>
    if offset = 0 then 0 else c.utf8Size + ceilBoundary rest (offset - c.utf8Size)

/-- The number of characters that end at or in front of an offset. -/
def charactersBefore : List Char → Nat → Nat
  | [], _ => 0
  | c :: rest, offset =>
    if offset < c.utf8Size then 0 else 1 + charactersBefore rest (offset - c.utf8Size)

end Traversal.Text
