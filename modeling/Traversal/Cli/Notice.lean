import Traversal.Text.Style

/-! Notices: lines about the progress of a command, which do not belong to its result. -/
namespace Traversal.Cli
open Text (Style)

/-- How much a user wants to be told. -/
inductive Verbosity
  | quiet
  | normal
  | verbose
  deriving Repr, DecidableEq

namespace Verbosity

/-- The verbosity that flags ask for. The wish for quiet prevails. -/
def ofFlags (quiet verbose : Bool) : Verbosity :=
  if quiet then .quiet else if verbose then .verbose else .normal

/-- The rank among verbosities. -/
def rank : Verbosity → Nat
  | .quiet => 0
  | .normal => 1
  | .verbose => 2

/-- Whether notices about success and failure are shown. -/
def showsNormal (verbosity : Verbosity) : Bool := Verbosity.normal.rank ≤ verbosity.rank

/-- Whether details are shown too. -/
def showsVerbose (verbosity : Verbosity) : Bool := Verbosity.verbose.rank ≤ verbosity.rank

/-- The level from which on messages are logged. -/
def logLevel : Verbosity → String
  | .quiet => "error"
  | .normal => "warn"
  | .verbose => "debug"

end Verbosity

/-- A line about success, about failure, or about a detail. -/
inductive Notice
  | success (message : String)
  | failure (message : String)
  | detail (message : String)
  deriving Repr, DecidableEq

namespace Notice

/-- The sign in front of a success. -/
def successSign : String := Style.paint ⟨"32", "39"⟩ "✓"

/-- The sign in front of a failure. -/
def failureSign : String := Style.paint ⟨"31", "39"⟩ "✗"

/-- The sign in front of a detail. -/
def detailSign : String := Style.paint ⟨"2", Style.reset⟩ "→"

/-- The line that shows a notice. -/
def line : Notice → String
  | .success message => s!"{successSign} {message}"
  | .failure message => s!"{failureSign} {message}"
  | .detail message => s!"  {detailSign} {message}"

/-- Whether a notice is shown at a verbosity. -/
def shownAt (verbosity : Verbosity) : Notice → Bool
  | .success _ | .failure _ => verbosity.showsNormal
  | .detail _ => verbosity.showsVerbose

end Notice

end Traversal.Cli
