import Traversal.Query.Parse
import Traversal.Rules

/-! Rejections: why a query is not compiled. -/
namespace Traversal

/-- What a rejected query suffers from: its text or stream is malformed, it has no output, or it
would cost too much. -/
inductive Category
  | malformed
  | structural
  | tooExpensive
  deriving Repr, DecidableEq

/-- Why a query is not compiled: its text is no query, nothing is marked for output, the schema
forbids something in it, or it breaks cost rules. -/
inductive Rejection
  | parse (diagnostic : Diagnostic)
  | noOutput
  | schema (errors : List String)
  | rules (violations : List Violation)
  deriving Repr, DecidableEq

namespace Rejection

/-- The code by which programs know a rejection. -/
def code : Rejection → String
  | .parse _ => "PARSE_ERROR"
  | .noOutput => "NO_OUTPUT_MARKER"
  | .schema _ => "COMPILE_ERROR"
  | .rules _ => "VALIDATION_ERROR"

/-- What the query suffers from. -/
def category : Rejection → Category
  | .parse _ | .schema _ => .malformed
  | .noOutput => .structural
  | .rules _ => .tooExpensive

/-- The message about a rejection; several errors or violations are joined. -/
def message : Rejection → String
  | .parse diagnostic => diagnostic.message
  | .noOutput => "no nodes marked for output"
  | .schema errors => "; ".intercalate errors
  | .rules violations => "; ".intercalate (violations.map Violation.message)

end Rejection

end Traversal
