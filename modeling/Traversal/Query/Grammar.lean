import Traversal.Query.Basic
import Traversal.Query.Reader
import Traversal.Text.Quoted

/-! The grammar of query texts, as readers of query trees. White space may stand between any two
parts, except inside names, numbers and quoted texts. -/
namespace Traversal.Grammar
open Reader

/-- White space between the parts of a query. -/
def isBlank (c : Char) : Bool := c == ' ' || c == '\t' || c == '\r' || c == '\n'

/-- The letters and digits of ASCII. -/
def isWordChar (c : Char) : Bool := c.isAlphanum

/-- The characters of a node type. -/
def isLabelChar (c : Char) : Bool := isWordChar c || c == '-' || c == '_' || c == '.'

/-- A reader of what stands after any amount of white space. -/
def spaced {α : Type} (reader : Reader α) : Reader α := do
  let _ ← run isBlank
  reader

/-- A node type. -/
def label : Reader String :=
  construct .label do return String.ofList (← run1 isLabelChar)

/-- The mark for output. -/
def store : Reader Unit := construct .store (symbol '*')

/-- The mark of a negated clause. -/
def negation : Reader Unit := construct .negation (symbol '!')

/-- The written form between quote marks. -/
def quotedContent : Reader (List Char) := fun here =>
  let content := (Text.Quoted.split here.rest).1
  ⟨some (content, here.advance content.length), id⟩

/-- A text between quote marks, decoded. -/
def quoted : Reader String :=
  construct .quoted do
    symbol Text.Quoted.mark
    let content ← quotedContent
    symbol Text.Quoted.mark
    return String.ofList (Text.Quoted.decode content)

/-- A truth value in letters of either case, not followed by more letters or digits. -/
def boolean : Reader String :=
  construct .boolean do
    let letters ← orElse (word "true".toList) (word "false".toList)
    notAhead isWordChar
    return String.ofList letters

/-- The digits behind a decimal point, with the point. -/
def fraction : Reader (List Char) := do
  symbol '.'
  return '.' :: (← run1 Char.isDigit)

/-- A decimal number as written. -/
def number : Reader String :=
  construct .number do
    let negative ← present (symbol '-')
    let digits ← run1 Char.isDigit
    let decimals ← optional fraction
    return String.ofList ((if negative then ['-'] else []) ++ digits ++ decimals.getD [])

/-- The digits of a limit. -/
def integer : Reader (List Char) := construct .integer (run1 Char.isDigit)

/-- A value of a filter. -/
def literal : Reader Literal :=
  orElse (Literal.text <$> quoted) <|
    orElse (Literal.boolean <$> boolean) (Literal.number <$> number)

/-- What stands behind a comma. -/
def afterComma {α : Type} (item : Reader α) : Reader α := do
  symbol ','
  spaced item

/-- The opening parenthesis of a clause, with or without a mark of negation in front of it. -/
def opening : Reader Bool := do
  let negated ← present negation
  spaced (symbol '(')
  return negated

/-- A property filter: the key and then its values, in parentheses. -/
def filter : Reader Filter :=
  construct .filter do
    let negated ← opening
    let key ← spaced quoted
    let values ← many (spaced (afterComma literal))
    spaced (symbol ')')
    return ⟨key, negated, values⟩

/-- The labels that an edge may have, in parentheses. -/
def edgeFilter : Reader (List String) :=
  construct .edgeFilter do
    symbol '('
    let first ← spaced quoted
    let others ← many (spaced (afterComma quoted))
    spaced (symbol ')')
    return first :: others

/-- The digits of a limit on the number of results. -/
def limit : Reader (List Char) :=
  construct .limit do
    let _ ← word "limit".toList
    spaced integer

section

variable (inner : Reader Nested)

/-- A block around a nested statement. -/
def block : Reader Clause :=
  construct .block do
    let negated ← opening
    spaced (symbol '>')
    let nested ← spaced inner
    spaced (symbol ')')
    return .block negated nested

/-- A clause of a vertex. -/
def clause : Reader Clause := orElse (block inner) (Clause.filter <$> filter)

/-- A vertex. The mark for output may stand before its clauses, after them, or in both places. -/
def vertex : Reader Vertex :=
  construct .vertex do
    let name ← label
    let early ← present (spaced store)
    let clauses ← many (spaced (clause inner))
    let late ← present (spaced store)
    return .mk name clauses (early || late)

/-- A union of nested statements. -/
def union : Reader Target :=
  construct .union do
    symbol '['
    let first ← spaced inner
    let others ← many (spaced (afterComma inner))
    spaced (symbol ']')
    let stored ← present (spaced store)
    return .union first others stored

/-- A hop to a vertex or into a union. -/
def hop : Reader Hop :=
  construct .hop do
    symbol '>'
    let labels ← optional (spaced edgeFilter)
    let target ← spaced (orElse (union inner) (Target.vertex <$> vertex inner))
    return .mk (labels.getD []) target

/-- A nested statement whose own nested statements are read by `inner`. -/
def statement : Reader Nested :=
  construct .nestedStatement do
    let labels ← optional edgeFilter
    let head ← spaced (vertex inner)
    let hops ← many (spaced (hop inner))
    return .mk (labels.getD []) head hops

/-- The statement that a query consists of, with the digits of its limit. -/
def startStatement : Reader (Vertex × List Hop × Option (List Char)) :=
  construct .startStatement do
    let root ← vertex inner
    let hops ← many (spaced (hop inner))
    let digits ← optional (spaced limit)
    return (root, hops, digits)

end

/-- A nested statement in which statements are nested at most `depth` deep. -/
def nested : Nat → Reader Nested
  | 0 => never
  | depth + 1 => statement (nested depth)

/-- The end of the text. -/
def endOfQuery : Reader Unit := construct .endOfQuery (notAhead fun _ => true)

/-- A whole query text whose statements are nested at most `depth` deep. -/
def query (depth : Nat) : Reader (Vertex × List Hop × Option (List Char)) :=
  construct .query do
    let statement ← spaced (startStatement (nested depth))
    spaced endOfQuery
    return statement

end Traversal.Grammar
