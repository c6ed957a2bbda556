import CsvSchema.Run.Evaluation

/-!
# Rules of columns

The rule of a column is applied to its field of a record.  An empty field of an optional column
passes, and a field that the record lacks is a failure by itself.
-/

namespace CsvSchema

namespace Session

/-- Turn to a column. -/
def enter (column : ColumnDefinition) : StateM Session Unit :=
  modify fun session =>
    { session with column := column.name, severity := column.rule.settings.severity }

/-- What is said of a field that the record lacks. -/
def missingText (column : String) (line : Nat) : String :=
  "column " ++ column ++ " is missing from line: " ++ Decimal.natText line

/-- What is said of a check that should have failed. -/
def matchText (check : Check) (line : Nat) (column value : String) : String :=
  check.text ++ " should not have matched for line: " ++ Decimal.natText line ++ ", column: " ++
    column ++ ", value: \"" ++ value ++ "\""

/-- Apply one check of a rule.  Under the directive that turns matches into failures a
check that holds is reported instead of one that fails. -/
def applyCheck (environment : Environment) (row : Row) (column : ColumnDefinition)
    (value : String) (check : Check) : StateM Session Bool := do
  let settings := column.rule.settings
  let fold := environment.options.ignoreCase || settings.ignoreCase
  if settings.matchIsFalse then
    if ← validate environment row fold none check value then
      modify fun session =>
        session.push settings.severity (matchText check session.line column.name value)
      return false
    else return true
  else validate environment row fold (some settings.severity) check value

/-- Apply all checks of a rule. -/
def applyChecks (environment : Environment) (row : Row) (column : ColumnDefinition)
    (value : String) : List Check → StateM Session Bool
  | [] => return true
  | check :: rest => do
      let held ← applyCheck environment row column value check
      let heldAfter ← applyChecks environment row column value rest
      return held && heldAfter

/-- Apply the rule of a column to a record. -/
def validateRule (environment : Environment) (row : Row) (column : ColumnDefinition) :
    StateM Session Bool := do
  enter column
  match row.get? (environment.settings.columnKey column.name) with
  | none => do
      modify fun session =>
        session.push column.rule.settings.severity (missingText column.name session.line)
      return false
  | some value =>
      if column.rule.settings.optional && value.isEmpty then return true
      else applyChecks environment row column value column.rule.checks

/-- Apply the rules of some columns, and tell the outcome of each. -/
def validateColumns (environment : Environment) (row : Row) (columns : List ColumnDefinition) :
    StateM Session (List Bool) :=
  columns.mapM (validateRule environment row)

/-- Go to the next record. -/
def advance : StateM Session Unit :=
  modify fun session => { session with line := session.line + 1 }

end Session

end CsvSchema
