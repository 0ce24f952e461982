import Traversal.Event
import Traversal.Step
import Traversal.Text.Lowercase

/-! The values of a filter: what its step compares the property with. -/
namespace Traversal

/-- The value of a boolean as written: a truth value in letters of either case, and the small
letters themselves for any other word. -/
def booleanValue (word : String) : Value :=
  match Text.lowercase word with
  | "true" => .boolean true
  | "false" => .boolean false
  | other => .literal other

/-- The values of a filter: strings, then numbers, then booleans, without those that repeat the
filter's key. -/
def FilterEvent.values (filter : FilterEvent) : List Value :=
  (filter.strings.map Value.literal ++ filter.numbers.map Value.number ++
    filter.booleans.map booleanValue).filter fun value => value.raw != filter.key

end Traversal
