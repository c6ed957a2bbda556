import CsvSchema.Text.Split

/-!
# Operands

An operand says where the text that a value is compared with comes from: a literal, another column
of the same record, or a combination of such texts.
-/

namespace CsvSchema

/-- A source of text for one record. -/
inductive Operand where
  | column (name : String)
  | literal (text : String)
  | provided (inner : Operand)
  | concat (parts : List Operand)
  | noExtension (inner : Operand)
  | uriDecode (value : Operand) (encoding : Option Operand)
  | file (folder : Option Operand) (file : Operand)

mutual

/-- An operand in schema text. -/
def Operand.text : Operand → String
  | .column name => "$" ++ name
  | .literal text => "\"" ++ text ++ "\""
  | .provided inner => inner.text
  | .concat parts => "concat(" ++ Text.joinWith ", " (operandTexts parts) ++ ")"
  | .noExtension inner => "noExt(" ++ inner.text ++ ")"
  | .uriDecode value none => "uriDecode(" ++ value.text ++ ")"
  | .uriDecode value (some encoding) => "uriDecode(" ++ value.text ++ ", " ++ encoding.text ++ ")"
  | .file none file => "file(" ++ file.text ++ ")"
  | .file (some folder) file => "file(" ++ folder.text ++ ", " ++ file.text ++ ")"

/-- Operands in schema text. -/
def operandTexts : List Operand → List String
  | [] => []
  | operand :: rest => operand.text :: operandTexts rest

end

end CsvSchema
