import Traversal.Text.Style

/-! Reports: what a user is told about a failure. -/
namespace Traversal.Cli
open Text (Style)

/-- A failure: what went wrong, where, and what to try next. -/
structure Report where
  message : String
  context : Option String
  hint : Option String
  deriving Repr, DecidableEq

namespace Report

/-- The code that gives text its usual colour back. -/
def usualColour : String := "39"

/-- Bold text. -/
def bold : Style := ⟨"1", Style.reset⟩

/-- Red text. -/
def red : Style := ⟨"31", usualColour⟩

/-- Blue text. -/
def blue : Style := ⟨"34", usualColour⟩

/-- Cyan text. -/
def cyan : Style := ⟨"36", usualColour⟩

/-- An indented line behind a sign in some style, if there is anything to say in it. -/
def detailLine (style : Style) (sign : String) : Option String → String
  | some detail => s!"\n  {style.paint sign} {detail}"
  | none => ""

/-- The report as a terminal shows it. -/
def render (report : Report) : String :=
  bold.paint (red.paint "error:") ++ " " ++ report.message ++
    detailLine blue "-->" report.context ++ detailLine cyan "help:" report.hint

end Report

end Traversal.Cli
