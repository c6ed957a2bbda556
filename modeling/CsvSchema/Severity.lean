/-!
# Severity
-/

namespace CsvSchema

/-- How bad a failing rule is.  Only an error makes a file invalid. -/
inductive Severity where
  | error
  | warning
  deriving Repr, DecidableEq

namespace Severity

/-- The word for a severity. -/
def text : Severity → String
  | error => "error"
  | warning => "warning"

/-- The severity that a word names. -/
def ofText? : String → Option Severity
  | "error" => some error
  | "warning" => some warning
  | _ => none

end Severity

end CsvSchema
