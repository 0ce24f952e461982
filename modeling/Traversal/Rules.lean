/-! Cost rules: checks on a finished compilation that refuse queries which circle or visit too many
vertices. Each enabled rule judges on its own. -/
namespace Traversal

/-- The rules that are enabled. -/
structure RuleSet where
  loopCheck : Bool
  nodeCountCheck : Bool
  deriving Repr, DecidableEq

namespace RuleSet

/-- Every rule. -/
def all : RuleSet := ⟨true, true⟩

/-- No rule. -/
def none : RuleSet := ⟨false, false⟩

/-- Whether a word occurs anywhere in a text. -/
def mentions (word : List Char) : List Char → Bool
  | [] => word.isEmpty
  | c :: rest => word.isPrefixOf (c :: rest) || mentions word rest

/-- The rules that a text mentions. The mention of none overrides every other, that of all every
other but none. -/
def parse (text : String) : RuleSet :=
  if mentions "none".toList text.toList then none
  else if mentions "all".toList text.toList then all
  else ⟨mentions "loop".toList text.toList, mentions "nodeCount".toList text.toList⟩

/-- The text of a rule set. -/
def text : RuleSet → String
  | ⟨true, true⟩ => "all"
  | ⟨true, false⟩ => "loop"
  | ⟨false, true⟩ => "nodeCount"
  | ⟨false, false⟩ => "none"

/-- Whether no rule is enabled. -/
def isEmpty (rules : RuleSet) : Bool := !rules.loopCheck && !rules.nodeCountCheck

end RuleSet

/-- How a query breaks a rule. -/
inductive Violation
  | loop (distinct total : Nat)
  | nodeCount (count max : Nat)
  deriving Repr, DecidableEq

/-- The message about a violation. -/
def Violation.message : Violation → String
  | .loop _ _ => "loop validation failed"
  | .nodeCount _ _ => "node count validation failed"

/-- The edges that a query followed, from source to target, in order. -/
abbrev EdgeLog := List (String × String)

/-- The number of different edges in a log. -/
def distinctEdges (log : EdgeLog) : Nat := log.eraseDups.length

/-- A query circles if fewer than half of the edges that it follows, rounded down, are different. -/
def checkLoops (log : EdgeLog) : Option Violation :=
  if distinctEdges log < log.length / 2 then some (.loop (distinctEdges log) log.length) else none

/-- A query may not visit more vertices than the ceiling. -/
def checkNodeCount (count max : Nat) : Option Violation :=
  if count > max then some (.nodeCount count max) else none

/-- All violations of the enabled rules, that of the loop rule first. -/
def violations (rules : RuleSet) (log : EdgeLog) (count max : Nat) : List Violation :=
  (if rules.loopCheck then (checkLoops log).toList else []) ++
    (if rules.nodeCountCheck then (checkNodeCount count max).toList else [])

/-- The judgement of the enabled rules on the numbers of a compilation: it lists the violations, if
there are any. Without a rule nothing is looked at. -/
def RuleSet.validate (rules : RuleSet) (log : EdgeLog) (count max : Nat) :
    Except (List Violation) Unit :=
  if rules.isEmpty then .ok ()
  else match violations rules log count max with
    | [] => .ok ()
    | broken => .error broken

end Traversal
