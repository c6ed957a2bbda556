import CsvSchema.Schema.Operand
import CsvSchema.Schema.ValueTest
import CsvSchema.Digest.Algorithm

/-!
# Checks

The rule of a column is a list of checks.  An atomic check decides something by itself: about the
value alone, about the value and some operands, about earlier records, or about files.  Other
checks combine checks.  A check that remembers earlier records has the number of a slot that it
keeps its memory in.
-/

namespace CsvSchema

/-- How a value is compared with the text of an operand. -/
inductive Relation where
  | is
  | isNot
  | contains
  | startsWith
  | endsWith
  deriving Repr, DecidableEq

/-- The keyword of a comparison. -/
def Relation.keyword : Relation → String
  | is => "is"
  | isNot => "not"
  | contains => "in"
  | startsWith => "starts"
  | endsWith => "ends"

/-- Whether an integrity check expects folders to be named as well as files. -/
inductive FolderRule where
  | includeFolder
  | excludeFolder
  deriving Repr, DecidableEq

namespace FolderRule

/-- The keyword of a folder rule. -/
def text : FolderRule → String
  | includeFolder => "includeFolder"
  | excludeFolder => "excludeFolder"

/-- The folder rule with a keyword. -/
def ofText? : String → Option FolderRule
  | "includeFolder" => some includeFolder
  | "excludeFolder" => some excludeFolder
  | _ => none

/-- What is said of a text that is no keyword of a folder rule. -/
def unknown (text : String) : String :=
  "unknown folder specification '" ++ text ++ "', expected includeFolder or excludeFolder"

end FolderRule

/-- A check that decides by itself. -/
inductive Atom where
  | value (test : ValueTest)
  | compare (relation : Relation) (operand : Operand)
  | any (operands : List Operand)
  | composedDate (year month day : Operand) (bounds : Bounds Calendar.Date)
  | partialDate (year month day : Operand)
  | unique (columns : List String) (slot : Nat)
  | identical (slot : Nat)
  | fileExists (folder : Option Operand)
  | integrity (folder subfolder : Option Operand) (rule : FolderRule) (slot : Nat)
  | checksum (file : Operand) (algorithm : HashAlgorithm)
  | fileCount (folder : Operand)

namespace Atom

/-- Arguments in parentheses. -/
def call (keyword : String) (arguments : List String) : String :=
  keyword ++ "(" ++ Text.joinWith ", " arguments ++ ")"

/-- An argument that may be missing. -/
def optionalText (operand : Option Operand) : List String := (operand.map Operand.text).toList

/-- An atomic check in schema text. -/
def text : Atom → String
  | value test => test.text
  | compare relation operand => call relation.keyword [operand.text]
  | any operands => call "any" (operandTexts operands)
  | composedDate year month day bounds =>
      call "date" ([year.text, month.text, day.text] ++
        if bounds.isUnbounded then [] else [bounds.text Calendar.Date.text])
  | partialDate year month day => call "partDate" [year.text, month.text, day.text]
  | unique columns _ =>
      if columns.isEmpty then "unique" else call "unique" (columns.map ("$" ++ ·))
  | identical _ => "identical"
  | fileExists folder =>
      match folder with
      | none => "fileExists"
      | some folder => call "fileExists" [folder.text]
  | integrity folder subfolder rule _ =>
      call "integrityCheck"
        (optionalText folder ++ optionalText subfolder ++ ["\"" ++ rule.text ++ "\""])
  | checksum file algorithm => call "checksum" [file.text, "\"" ++ algorithm.name ++ "\""]
  | fileCount folder => call "fileCount" [folder.text]

end Atom

mutual

/-- A check of a value. -/
inductive Check where
  | atom (atom : Atom)
  | or (checks : List Check)
  | and (checks : List Check)
  | conditional (condition : Check) (clause : List Check) (otherwise : Option (List Check))
  | switch (cases : List SwitchCase) (otherwise : Option (List Check))
  | parenthesized (checks : List Check)
  | single (column : Option String) (check : Check)

/-- One case of a switch. -/
inductive SwitchCase where
  | mk (condition : Check) (clause : List Check)

end

mutual

/-- A check in schema text. -/
def Check.text : Check → String
  | .atom atom => atom.text
  | .or checks => Text.joinWith " or " (checkTexts checks)
  | .and checks => Text.joinWith " and " (checkTexts checks)
  | .conditional condition clause otherwise =>
      Atom.call "if"
        ([condition.text, Text.joinWith " " (checkTexts clause)] ++ otherwiseTexts otherwise)
  | .switch cases otherwise =>
      Atom.call "switch" (caseTexts cases ++ otherwiseTexts otherwise)
  | .parenthesized checks => "(" ++ Text.joinWith " " (checkTexts checks) ++ ")"
  | .single none check => check.text
  | .single (some column) check => "$" ++ column ++ "/" ++ check.text

/-- Checks in schema text. -/
def checkTexts : List Check → List String
  | [] => []
  | check :: rest => check.text :: checkTexts rest

/-- A clause that may be missing in schema text. -/
def otherwiseTexts : Option (List Check) → List String
  | none => []
  | some checks => [Text.joinWith " " (checkTexts checks)]

/-- Cases in schema text. -/
def caseTexts : List SwitchCase → List String
  | [] => []
  | .mk condition clause :: rest =>
      ("(" ++ condition.text ++ ", " ++ Text.joinWith " " (checkTexts clause) ++ ")") ::
        caseTexts rest

end

/-- The operand that a comparison compares with, also behind the name of a column. -/
def Check.comparedOperand? : Check → Option Operand
  | .atom (.compare _ operand) => some operand
  | .single _ check => check.comparedOperand?
  | _ => none

end CsvSchema
