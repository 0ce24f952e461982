import Traversal.Rules

/-! Settings of a compilation. -/
namespace Traversal

/-- Which cost rules apply, the ceiling on vertices, whether the filter keys of root vertices are
checked against the schema, and whether the result is aggregated. -/
structure Settings where
  rules : RuleSet := RuleSet.all
  maxNodeCount : Nat := 100
  validateStructure : Bool := false
  aggregate : Bool := false
  deriving Repr, DecidableEq

end Traversal
