import CsvSchema.Pattern.Reader.Basic
import CsvSchema.Pattern.Resolution
import CsvSchema.Pattern.Size
import CsvSchema.Pattern.Matching

/-!
# Patterns

A pattern is matched between the two ends of a text, once with and once without regard to letter
case.  Both expressions are put together when the pattern is read, so a pattern that exists can be
matched.
-/

namespace CsvSchema

/-- A pattern with its expressions for both ways of matching. -/
structure Pattern where
  source : String
  exact : Pattern.Regex
  folded : Pattern.Regex

namespace Pattern

/-- The text that is compiled: the pattern as one group between the ends of the text. -/
def anchored (source : String) : List Char := "^(?:".toList ++ source.toList ++ ")$".toList

/-- The regular expression of a pattern's text, unless it is too large. -/
def compile? (ignoreCase : Bool) (text : List Char) : Option Regex :=
  (read? text).bind fun e =>
    (e.regex? (.initial ignoreCase)).bind fun r =>
      if r.1.machineSize ≤ maxMachineSize then some r.1 else none

/-- The pattern that a text writes. -/
def ofSource? (source : String) : Option Pattern :=
  match compile? false (anchored source), compile? true (anchored source) with
  | some exact, some folded => some ⟨source, exact, folded⟩
  | _, _ => none

/-- Whether a pattern matches a text between its ends. -/
def isFullMatch (pattern : Pattern) (text : String) (ignoreCase : Bool) : Bool :=
  (if ignoreCase then pattern.folded else pattern.exact).isFoundIn text.toList

end Pattern

end CsvSchema
