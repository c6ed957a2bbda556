import CsvSchema.Reduction.Argument

/-!
# Reducing operands
-/

namespace CsvSchema

/-- A literal, or another operand that provides the text.  A literal that is provided
is the literal itself. -/
def reduceProvided : List Part → Except Fault Operand
  | [.token raw] => .ok (.literal (Text.literalText raw))
  | [part] => do
      match ← part.asOperand with
      | .literal text => return .literal text
      | inner => return .provided inner
  | parts => wrongCount [1] parts

/-- A reference to a column. -/
def reduceReference : List Part → Except Fault Operand
  | [part] => do
      let name := Text.referenceName (← part.asToken)
      if name = "" then throw .unnamedReference else return .column name
  | parts => wrongCount [1] parts

/-- Operands one after the other, at least one. -/
def reduceConcat (parts : List Part) : Except Fault Operand :=
  if parts.isEmpty then .error (.tooFew 1 parts.length)
  else (parts.mapM Part.asOperand).map .concat

/-- An operand without its extension. -/
def reduceNoExtension : List Part → Except Fault Operand
  | [part] => part.asOperand.map .noExtension
  | parts => wrongCount [1] parts

/-- An operand to decode, perhaps with an encoding. -/
def reduceUriDecode : List Part → Except Fault Operand
  | [value] => return .uriDecode (← value.asOperand) none
  | [value, encoding] => return .uriDecode (← value.asOperand) (some (← encoding.asOperand))
  | parts => wrongCount [1, 2] parts

/-- A file, perhaps with the folder that it lies in. -/
def reduceFile : List Part → Except Fault Operand
  | [file] => return .file none (← file.asOperand)
  | [folder, file] => return .file (some (← folder.asOperand)) (← file.asOperand)
  | parts => wrongCount [1, 2] parts

end CsvSchema
