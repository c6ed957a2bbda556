import CsvSchema.Text.Blank

/-!
# Versions of the schema language
-/

namespace CsvSchema

/-- A version of the schema language. -/
inductive Version where
  | v10
  | v11
  | v12
  deriving Repr, DecidableEq

namespace Version

/-- The number of a version. -/
def text : Version → String
  | v10 => "1.0"
  | v11 => "1.1"
  | v12 => "1.2"

/-- All versions, oldest first. -/
def all : List Version := [v10, v11, v12]

/-- The version with a number, blanks around it ignored. -/
def ofText? (text : String) : Option Version :=
  match Text.trimmed text with
  | "1.0" => some v10
  | "1.1" => some v11
  | "1.2" => some v12
  | _ => none

/-- What is said of a number that no version has. -/
def unsupported (text : String) : String :=
  "unsupported schema version '" ++ Text.trimmed text ++ "', expected one of " ++
    Text.joinWith ", " (all.map Version.text)

end Version

end CsvSchema
