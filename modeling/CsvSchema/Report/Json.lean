import CsvSchema.Report.Basic
import CsvSchema.Tree.Json

/-!
# Reports in JSON

A report is written as the object `rows`, with row numbers as member names, followed by `file` when
there are messages about the file as a whole.  Reading takes back what writing produces, also with
groups that are empty, and a name that comes twice in a group keeps its last value.
-/

namespace CsvSchema

open Json (Value StringUnit)

/-- The object whose members are the entries of a map. -/
def mapJson {κ β : Type} [KeyOrder κ] (name : κ → String) (value : β → Value)
    (map : OrderedMap κ β) : Value :=
  .object (map.entries.map fun entry => Json.member (name entry.1) (value entry.2))

/-- The entry of a map that a member writes. -/
def readMember? {κ β : Type} (key : List StringUnit → Option κ) (value : Value → Option β)
    (m : List StringUnit × Value) : Option (κ × β) :=
  match key m.1, value m.2 with
  | some key, some value => some (key, value)
  | _, _ => none

/-- A map from the members of an object. -/
def readMap? {κ β : Type} [KeyOrder κ] (key : List StringUnit → Option κ)
    (value : Value → Option β) : Value → Option (OrderedMap κ β)
  | .object members => (members.mapM (readMember? key value)).map OrderedMap.ofList
  | _ => none

/-- The text of a member name. -/
def nameText? (units : List StringUnit) : Option String :=
  (Json.unitsText? units).map String.ofList

/-- The character of a unit that no escape wrote. -/
def plainChar? : StringUnit → Option Char
  | .plain c => some c
  | .coded _ => none

/-- The row number that a member name writes: digits without a leading zero. -/
def rowNumber? (units : List StringUnit) : Option Nat :=
  match units.mapM plainChar? with
  | some digits =>
      if Decimal.isDigits digits && (digits == ['0'] || digits.head? != some '0') then
        Decimal.readNatural? Decimal.maxWord64 digits
      else none
  | none => none

namespace Severity

/-- The severity that a member name writes. -/
def ofName? (units : List StringUnit) : Option Severity := (nameText? units).bind ofText?

/-- A severity, written as its word or as an object with that one member, which is
null. -/
def ofJson? : Value → Option Severity
  | .string units => ofName? units
  | .object [(name, .null)] => ofName? name
  | _ => none

end Severity

namespace FileMessage

/-- The names of the fields of a message about the file. -/
def fieldNames : List String := ["severity", "message"]

/-- A message from its two fields, neither of which may be missing. -/
def ofJson? (value : Value) : Option FileMessage :=
  match Json.recordFields? fieldNames value with
  | some [some severity, some message] =>
      match Severity.ofJson? severity, message.text? with
      | some severity, some message => some ⟨severity, message⟩
      | _, _ => none
  | _ => none

/-- The object that writes a message about the file. -/
def toJson (m : FileMessage) : Value :=
  .object [Json.member "severity" (.ofString m.severity.text),
    Json.member "message" (.ofString m.message)]

end FileMessage

/-- The array that writes the messages of a group. -/
def messagesJson (messages : List String) : Value := .array (messages.map .ofString)

/-- The object that writes the messages of a row. -/
def RowMessages.toJson (row : RowMessages) : Value :=
  mapJson id (mapJson Severity.text messagesJson) row

namespace Report

/-- The names of the fields of a report. -/
def fieldNames : List String := ["rows", "file"]

/-- The object that writes a report. -/
def toJson (report : Report) : Value :=
  .object (Json.member "rows" (mapJson Decimal.natText RowMessages.toJson report.rows) ::
    if report.file.isEmpty then []
    else [Json.member "file" (.array (report.file.map FileMessage.toJson))])

/-- The JSON text of a report. -/
def print (report : Report) : String := report.toJson.indented

/-- The rows of a report from their object. -/
def rowsOfJson? (value : Value) : Option (OrderedMap Nat RowMessages) :=
  readMap? rowNumber?
    (readMap? nameText? (readMap? Severity.ofName? (itemsOf? Value.text?))) value

/-- A report from its fields, of which only the rows must be there. -/
def ofJson? (value : Value) : Option Report :=
  match Json.recordFields? fieldNames value with
  | some [some rows, file] =>
      match rowsOfJson? rows, Json.defaulted? [] (itemsOf? FileMessage.ofJson?) file with
      | some rows, some file => some ⟨rows, file⟩
      | _, _ => none
  | _ => none

/-- The report that a JSON text writes. -/
def read? (text : String) : Option Report := (Json.read? text).bind ofJson?

end Report

end CsvSchema
