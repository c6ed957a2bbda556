import CsvSchema.Schema.Basic
import CsvSchema.Row
import CsvSchema.Run.FileText

/-!
# The text of an operand

An operand has a text for each record, unless it needs a column that the record lacks or a decoding
that is not possible.
-/

namespace CsvSchema

/-- Why an operand has no text. -/
inductive OperandError where
  | missingColumn (name : String)
  | unsupportedEncoding (name : String)
  | invalidEncoding (value : String) (encoding : Uri.Encoding)
  deriving Repr, DecidableEq

/-- What is said of an operand without text. -/
def OperandError.message : OperandError → String
  | missingColumn name => "column $" ++ name ++ " is not present in the row"
  | unsupportedEncoding name => "unsupported encoding '" ++ name ++ "'"
  | invalidEncoding value encoding =>
      "'" ++ value ++ "' is not valid percent-encoded " ++ encoding.name

/-- The field of a column. -/
def FileSettings.fieldOf (settings : FileSettings) (row : Row) (name : String) :
    Except OperandError String :=
  match row.get? (settings.columnKey name) with
  | some value => .ok value
  | none => .error (.missingColumn name)

/-- Decode the percent signs of a value.  The encoding's name may have blanks around
it and any case. -/
def uriDecode (value encoding : String) : Except OperandError String :=
  let name := Text.trimmed encoding
  match Uri.Encoding.ofUpperName? (String.ofList (name.toList.map Char.toUpper)) with
  | none => .error (.unsupportedEncoding name)
  | some encoding =>
      match encoding.text? (Uri.percentBytes value) with
      | some text => .ok text
      | none => .error (.invalidEncoding value encoding)

mutual

/-- The text of an operand for a row. -/
def Operand.evaluate (settings : FileSettings) (row : Row) : Operand → Except OperandError String
  | .column name => settings.fieldOf row name
  | .literal text => .ok text
  | .provided inner => inner.evaluate settings row
  | .concat parts => (evaluateOperands settings row parts).map String.join
  | .noExtension inner => do
      let value ← inner.evaluate settings row
      return String.ofList (FileText.withoutExtension value.toList)
  | .uriDecode value none => do
      let value ← value.evaluate settings row
      uriDecode value Uri.Encoding.utf8.name
  | .uriDecode value (some encoding) => do
      let value ← value.evaluate settings row
      let encoding ← encoding.evaluate settings row
      uriDecode value encoding
  | .file none file => file.evaluate settings row
  | .file (some folder) file => do
      let file ← file.evaluate settings row
      let folder ← folder.evaluate settings row
      return FileText.joined folder file

/-- The texts of some operands for a row. -/
def evaluateOperands (settings : FileSettings) (row : Row) :
    List Operand → Except OperandError (List String)
  | [] => .ok []
  | operand :: rest => do
      let text ← operand.evaluate settings row
      let texts ← evaluateOperands settings row rest
      return text :: texts

end

end CsvSchema
