/-! Styles: colours and weights of text on a terminal. -/
namespace Traversal.Text

/-- A style, by the codes that switch it on and off. -/
structure Style where
  on : String
  off : String
  deriving Repr, DecidableEq

/-- The code that switches all styles off. -/
def Style.reset : String := "0"

/-- A text in a style. -/
def Style.paint (style : Style) (text : String) : String :=
  s!"\x1b[{style.on}m{text}\x1b[{style.off}m"

end Traversal.Text
