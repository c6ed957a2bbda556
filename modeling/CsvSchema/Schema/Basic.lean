import CsvSchema.Schema.Check
import CsvSchema.Severity
import CsvSchema.Version
import CsvSchema.Text.Case

/-!
# Schemas

A schema says how a file is to be read and which checks the values of each column have to pass.
Columns are listed in the order in which their fields stand in a record.
-/

namespace CsvSchema

/-- How a file is read. -/
structure FileSettings where
  /-- What stands between two fields. -/
  separator : Char
  /-- Whether fields may be enclosed in double quotes. -/
  quoted : Bool
  /-- How many fields the header has, if that is not the number of columns. -/
  totalColumns : Option Nat
  /-- Whether a file without records is valid. -/
  permitEmpty : Bool
  /-- Whether the first record is data. -/
  noHeader : Bool
  /-- Whether the names of columns are compared without regard to case. -/
  ignoreColumnNameCase : Bool
  deriving Repr, DecidableEq

namespace FileSettings

/-- The settings without any directive. -/
def initial : FileSettings := ⟨',', false, none, false, false, false⟩

/-- What the name of a column is compared by. -/
def columnKey (settings : FileSettings) (name : String) : String :=
  Text.folded settings.ignoreColumnNameCase name

end FileSettings

/-- How the rule of a column is applied. -/
structure ColumnSettings where
  /-- Whether an empty value passes without being checked. -/
  optional : Bool
  /-- Whether a check has to fail. -/
  matchIsFalse : Bool
  /-- Whether texts are compared without regard to case. -/
  ignoreCase : Bool
  /-- Whether a failure leaves the file valid. -/
  warning : Bool
  deriving Repr, DecidableEq

namespace ColumnSettings

/-- The settings without any directive. -/
def initial : ColumnSettings := ⟨false, false, false, false⟩

/-- How bad a failure of the column is. -/
def severity (settings : ColumnSettings) : Severity :=
  if settings.warning then .warning else .error

end ColumnSettings

/-- What the values of a column have to be like. -/
structure ColumnRule where
  checks : List Check
  settings : ColumnSettings

/-- A column with its rule. -/
structure ColumnDefinition where
  name : String
  rule : ColumnRule

/-- How a file is read and checked. -/
structure Schema where
  version : Version
  settings : FileSettings
  columns : List ColumnDefinition
  /-- How many slots of memory the checks use. -/
  slots : Nat

namespace Schema

/-- What the columns are looked up by, in their order. -/
def columnKeys (schema : Schema) : List String :=
  schema.columns.map fun column => schema.settings.columnKey column.name

/-- How many fields a header has to have. -/
def expectedColumns (schema : Schema) : Nat :=
  schema.settings.totalColumns.getD schema.columns.length

end Schema

end CsvSchema
