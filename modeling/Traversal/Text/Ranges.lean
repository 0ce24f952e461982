/-! Sets of characters written as ranges of code points. -/
namespace Traversal.Text

/-- A closed range of code points. -/
abbrev CodeRange := Nat × Nat

/-- A character is in the set when its code point is in one of the ranges. -/
def inRanges (ranges : List CodeRange) (c : Char) : Bool :=
  ranges.any fun r => r.1 ≤ c.toNat && c.toNat ≤ r.2

end Traversal.Text
