import CsvSchema.Options
import CsvSchema.Run.OperandValue
import CsvSchema.Run.Memory

/-!
# Scopes

What stays the same while a check is evaluated: the settings of the file, the options of the run,
the storage that is checked against, the record, and the column that the check belongs to.
-/

namespace CsvSchema

/-- What stays the same during a run. -/
structure Environment where
  settings : FileSettings
  options : Options
  storage : Storage

/-- What stays the same during the evaluation of a check. -/
structure Scope where
  environment : Environment
  row : Row
  /-- Whether texts are compared without regard to case. -/
  fold : Bool
  column : String
  severity : Severity

namespace Scope

/-- The text of an operand. -/
def operand (scope : Scope) (operand : Operand) : Except OperandError String :=
  operand.evaluate scope.environment.settings scope.row

/-- The field of a column. -/
def field (scope : Scope) (name : String) : Except OperandError String :=
  scope.environment.settings.fieldOf scope.row name

/-- A text as it is compared. -/
def comparable (scope : Scope) (text : String) : String := Text.folded scope.fold text

/-- Where a text leads, if anything is there.  Where case does not matter, a path that
differs in letter case only will do. -/
def locate? (scope : Scope) (text : String) : StateM Memory (Option Path) := do
  let path := scope.environment.options.resolve (FileText.path text)
  if ← Memory.probe (Probes.has scope.environment.storage path) then return some path
  else if scope.fold then
    Memory.probe (Probes.resolveCaseless? scope.environment.storage path)
  else return none

end Scope

end CsvSchema
