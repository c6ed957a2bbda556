import CsvSchema.Collection.OrderedMap

/-!
# Reports

Messages about a record are grouped by row number, column name and severity, and keep the order
in which they were made inside a group.  Messages about the file as a whole belong to no row and
come before all others.
-/

namespace CsvSchema

/-- A message about the file as a whole. -/
structure FileMessage where
  severity : Severity
  message : String
  deriving Repr, DecidableEq

/-- The messages of one column of one row, by severity. -/
abbrev ColumnMessages := OrderedMap Severity (List String)

/-- The messages of one row, by column. -/
abbrev RowMessages := OrderedMap String ColumnMessages

/-- The messages of a run. -/
structure Report where
  rows : OrderedMap Nat RowMessages
  file : List FileMessage

/-- One message of a report with the place that it is about.  A message about the
file as a whole has no row and no column. -/
structure ReportEntry where
  row : Option Nat
  column : Option String
  severity : Severity
  message : String
  deriving Repr, DecidableEq

/-- The entry of a message about the file as a whole. -/
def FileMessage.entry (m : FileMessage) : ReportEntry := ⟨none, none, m.severity, m.message⟩

namespace Report

/-- The report without messages. -/
def empty : Report := ⟨.empty, []⟩

instance : Inhabited Report := ⟨empty⟩

/-- Add a message about a column of a row. -/
def push (report : Report) (row : Nat) (column : String) (severity : Severity)
    (message : String) : Report :=
  { report with
    rows := report.rows.alter row .empty fun columns =>
      columns.alter column .empty fun severities =>
        severities.alter severity [] fun messages => messages ++ [message] }

/-- Add a message about the file as a whole. -/
def pushFile (report : Report) (severity : Severity) (message : String) : Report :=
  { report with file := report.file ++ [⟨severity, message⟩] }

/-- The messages of one severity about a column of a row. -/
def get (report : Report) (row : Nat) (column : String) (severity : Severity) : List String :=
  (((report.rows.get? row).bind (·.get? column)).bind (·.get? severity)).getD []

/-- All messages about a row. -/
def row? (report : Report) (row : Nat) : Option RowMessages := report.rows.get? row

/-- Whether a report has no groups and no messages. -/
def isEmpty (report : Report) : Bool := report.rows.entries.isEmpty && report.file.isEmpty

/-- The entries of one cell. -/
def cellEntries (row : Nat) (column : String) (severity : Severity) (messages : List String) :
    List ReportEntry :=
  messages.map fun message => ⟨some row, some column, severity, message⟩

/-- The entries of one column of a row. -/
def columnEntries (row : Nat) (column : String) (severities : ColumnMessages) :
    List ReportEntry :=
  severities.entries.flatMap fun group => cellEntries row column group.1 group.2

/-- The entries of one row. -/
def rowEntries (row : Nat) (columns : RowMessages) : List ReportEntry :=
  columns.entries.flatMap fun group => columnEntries row group.1 group.2

/-- All messages: those about the file, then by row, column and severity. -/
def messages (report : Report) : List ReportEntry :=
  report.file.map FileMessage.entry ++
    report.rows.entries.flatMap fun group => rowEntries group.1 group.2

/-- The number of messages of a severity. -/
def count (report : Report) (severity : Severity) : Nat :=
  (report.messages.filter (·.severity == severity)).length

end Report

end CsvSchema
