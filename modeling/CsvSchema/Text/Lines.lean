import CsvSchema.Text.Blank

/-!
# Lines of a schema document

Lines end with a line feed, and carriage returns before it do not belong to the line.
-/

namespace CsvSchema.Text

/-- The first line with anything but blanks, and its number counted from `number`. -/
def firstNonBlankFrom (number : Nat) : List (List Char) → Option (Nat × List Char)
  | [] => none
  | line :: rest =>
      let line := dropEndWhile (· == '\r') line
      if (trim line).isEmpty then firstNonBlankFrom (number + 1) rest else some (number, line)

/-- The first line of a document with anything but blanks, and its number
counted from one. -/
def firstNonBlankLine (text : String) : Option (Nat × String) :=
  (firstNonBlankFrom 1 (splitOn '\n' text.toList)).map fun line => (line.1, String.ofList line.2)

end CsvSchema.Text
