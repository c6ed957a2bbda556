import CsvSchema.Run.Scope
import CsvSchema.Report.Basic

/-!
# Sessions

A session goes through the records of a file.  It knows the line it is at, the column that is being
checked and how bad a failure of that column is, and it collects the report.
-/

namespace CsvSchema

/-- Where a run stands. -/
structure Session where
  /-- The number of the record, where a header counts as a record. -/
  line : Nat
  column : String
  severity : Severity
  report : Report
  memory : Memory

namespace Session

/-- A session before its first record. -/
def start (memoize : Bool) : Session := ⟨0, "", .error, .empty, .start memoize⟩

/-- Add a message about the current field. -/
def push (session : Session) (severity : Severity) (message : String) : Session :=
  { session with report := session.report.push session.line session.column severity message }

/-- Add messages about the current field, one after the other. -/
def pushAll (session : Session) (severity : Severity) (messages : List String) : Session :=
  messages.foldl (fun session message => session.push severity message) session

/-- What stays the same while a check is evaluated. -/
def scope (session : Session) (environment : Environment) (row : Row) (fold : Bool) : Scope :=
  ⟨environment, row, fold, session.column, session.severity⟩

/-- Let something happen to the memory of a run. -/
def remembering {α : Type} (action : StateM Memory α) : StateM Session α := fun session =>
  let (answer, memory) := action session.memory
  (answer, { session with memory })

/-- What is said of a check, given by its text, that does not hold for a value. -/
def failureText (check value : String) (detail : Option String) (line : Nat) (column : String) :
    String :=
  check ++ " fails for line: " ++ Decimal.natText line ++ ", column: " ++ column ++
    ", value: \"" ++ value ++ "\"" ++
    match detail with
    | some detail => " (" ++ detail ++ ")"
    | none => ""

/-- Report a failure at a level, or nowhere when nobody asked. -/
def fail (level : Option Severity) (check : Check) (value : String) (detail : Option String) :
    StateM Session Bool := fun session =>
  match level with
  | some severity =>
      (false, session.push severity
        (failureText check.text value detail session.line session.column))
  | none => (false, session)

end Session

end CsvSchema
