import CsvSchema.Run.Rule
import CsvSchema.Run.Completeness
import CsvSchema.Csv.Reader

/-!
# Validation of files

A run checks the header of a file, applies the rules of the schema to each record, and looks at the
folders of integrity checks in the end.  It fails as a whole if the header does not fit or the file
cannot be read; everything else goes into the report.
-/

namespace CsvSchema

/-- Why a run has no outcome. -/
inductive RunError where
  | headerMismatch (place : Nat) (expected found : String)
  | columnCount (expected found : Nat)
  | missingHeader
  | unreadable
  | cannotOpen (path : Path)
  deriving Repr, DecidableEq

/-- What is said of a run without outcome.  What the reader of records or the operating system says
about it, which stands after a colon at the end of the last two messages, is left out. -/
def RunError.message : RunError → String
  | headerMismatch place expected found =>
      "header mismatch at column " ++ Decimal.natText place ++ ": expected '" ++ expected ++
        "', found '" ++ found ++ "'"
  | columnCount expected found =>
      "column count mismatch: expected " ++ Decimal.natText expected ++ " columns, found " ++
        Decimal.natText found
  | missingHeader => "missing header row"
  | unreadable => "csv read error"
  | cannotOpen path => "cannot read " ++ path.text

/-- The outcome of a run. -/
structure Outcome where
  valid : Bool
  report : Report
  /-- How many records were checked. -/
  rows : Nat

namespace Schema

/-- A header, or the first record of a file without one, has to have a certain number
of fields. -/
def checkCount (schema : Schema) (fields : List String) : Except RunError Unit :=
  if fields.length = schema.expectedColumns then .ok ()
  else .error (.columnCount schema.expectedColumns fields.length)

/-- The names in a header have to be those of the columns, blanks around them ignored. -/
def checkNames (settings : FileSettings) :
    Nat → List ColumnDefinition → List String → Except RunError Unit
  | place, column :: columns, name :: names =>
      if settings.columnKey (Text.trimmed name) = settings.columnKey column.name then
        checkNames settings (place + 1) columns names
      else .error (.headerMismatch place column.name name)
  | _, _, _ => .ok ()

/-- Check a header: the number of its fields first, then their names. -/
def checkHeader (schema : Schema) (header : List String) : Except RunError Unit := do
  schema.checkCount header
  checkNames schema.settings 1 schema.columns header

/-- Check the start of a file. -/
def checkStart (schema : Schema) (header : Option (List String))
    (records : List (Except RunError (List String))) : Except RunError Unit :=
  match header, records with
  | some header, _ => schema.checkHeader header
  | none, .ok first :: _ => schema.checkCount first
  | none, _ => .ok ()

/-- Whether a record is valid: a column whose failures are warnings cannot spoil it. -/
def recordIsValid (columns : List ColumnDefinition) (outcomes : List Bool) : Bool :=
  (columns.zip outcomes).all fun (column, held) =>
    held || column.rule.settings.severity == .warning

/-- Apply all rules to a record. -/
def validateRecord (schema : Schema) (environment : Environment) (record : List String) :
    StateM Session Bool := do
  Session.advance
  let row := Row.ofFields schema.columnKeys record
  return recordIsValid schema.columns
    (← Session.validateColumns environment row schema.columns)

/-- Apply all rules to all records. -/
def validateAll (schema : Schema) (environment : Environment) (records : List (List String)) :
    StateM Session Bool :=
  return (← records.mapM (schema.validateRecord environment)).all id

/-- What is said of a file without records. -/
def noRecordsText : String := "file contains no data rows and @permitEmpty is not set"

/-- Refuse a file without records, unless it may be empty. -/
def checkEmpty (schema : Schema) (records : List (List String)) : StateM Session Bool := do
  if records.isEmpty && !schema.settings.permitEmpty then
    modify fun session =>
      { session with report := session.report.pushFile .error noRecordsText }
    return false
  else return true

/-- A run over records whose start has been checked. -/
def runRecords (schema : Schema) (environment : Environment) (records : List (List String)) :
    StateM Session Bool := do
  let recordsValid ← schema.validateAll environment records
  let permitted ← schema.checkEmpty records
  let complete ← Session.finish environment.storage
  return recordsValid && permitted && complete

/-- The session before the first record: a header counts as a record. -/
def firstSession (schema : Schema) (options : Options) : Session :=
  { Session.start options.memoize with line := if schema.settings.noHeader then 0 else 1 }

/-- The outcome of a run over records. -/
def outcomeOf (schema : Schema) (options : Options) (storage : Storage)
    (records : List (List String)) : Outcome :=
  let (valid, session) :=
    schema.runRecords ⟨schema.settings, options, storage⟩ records (schema.firstSession options)
  ⟨valid, session.report, records.length⟩

/-- A run from a header, if there is one, and records, which may be unreadable. -/
def run (schema : Schema) (options : Options) (storage : Storage)
    (header : Option (List String)) (records : List (Except RunError (List String))) :
    Except RunError Outcome := do
  schema.checkStart header records
  let records ← records.mapM id
  return schema.outcomeOf options storage records

/-- A run over records that can all be read fails at its start or has an outcome. -/
theorem run_map_ok (schema : Schema) (options : Options) (storage : Storage)
    (header : Option (List String)) (records : List (List String)) :
    schema.run options storage header (records.map .ok) =
      (schema.checkStart header (records.map .ok)).map fun _ =>
        schema.outcomeOf options storage records := by
  have hrecords : (records.map Except.ok).mapM id = (.ok records : Except RunError _) := by
    induction records with
    | nil => rfl
    | cons record rest ih =>
        rw [List.map_cons, List.mapM_cons, ih]
        rfl
  simp only [run, hrecords]
  cases schema.checkStart header (records.map .ok) with
  | error e => rfl
  | ok _ => rfl

/-- Validate records that were read elsewhere.  The header is not looked at if the
schema has none. -/
def validateRecords (schema : Schema) (options : Options) (storage : Storage)
    (header : Option (List String)) (records : List (List String)) : Except RunError Outcome :=
  if schema.settings.noHeader then schema.run options storage none (records.map .ok)
  else
    match header with
    | none => .error .missingHeader
    | some header => schema.run options storage (some header) (records.map .ok)

/-- Validate what was read from a file, where the header is the first record. -/
def validateFile (schema : Schema) (options : Options) (storage : Storage)
    (records : List (Except RunError (List String))) : Except RunError Outcome :=
  if schema.settings.noHeader then schema.run options storage none records
  else
    match records with
    | [] => .error .missingHeader
    | .error e :: _ => .error e
    | .ok header :: records => schema.run options storage (some header) records

/-- Validate a CSV text. -/
def validateText (schema : Schema) (options : Options) (storage : Storage) (text : String) :
    Except RunError Outcome :=
  schema.validateFile options storage ((Csv.readText schema.settings text).map .ok)

/-- Validate the bytes of a CSV file. -/
def validateBytes (schema : Schema) (options : Options) (storage : Storage)
    (bytes : List UInt8) : Except RunError Outcome :=
  schema.validateFile options storage
    ((Csv.readBytes schema.settings bytes).map fun record =>
      match record with
      | some record => .ok record
      | none => .error .unreadable)

/-- Validate the CSV file at a path.  A folder can be opened but not read. -/
def validatePath (schema : Schema) (options : Options) (storage : Storage) (path : Path) :
    Except RunError Outcome :=
  if storage.isFolder path then .error .unreadable
  else
    match storage.read? path with
    | some bytes => schema.validateBytes options storage bytes
    | none => .error (.cannotOpen path)

end Schema

end CsvSchema
