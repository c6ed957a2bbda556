import CsvSchema.Text.Split

/-!
# Blank characters and trimming

A blank is a character of the Unicode property White_Space.  Trimming takes blanks off both ends
and never touches what is between them.
-/

namespace CsvSchema.Text

/-- Whether a character has the property White_Space. -/
def isBlank (c : Char) : Bool :=
  let n := c.toNat
  (9 ≤ n && n ≤ 13) || n == 0x20 || n == 0x85 || n == 0xA0 || n == 0x1680 ||
    (0x2000 ≤ n && n ≤ 0x200A) || n == 0x2028 || n == 0x2029 || n == 0x202F ||
    n == 0x205F || n == 0x3000

/-- Drop the blanks in front. -/
def trimStart (s : List Char) : List Char := s.dropWhile isBlank

/-- Drop the blanks at the end. -/
def trimEnd (s : List Char) : List Char := dropEndWhile isBlank s

/-- Drop the blanks at both ends. -/
def trim (s : List Char) : List Char := trimEnd (trimStart s)

/-- Drop the blanks at both ends of a string. -/
def trimmed (s : String) : String := String.ofList (trim s.toList)

end CsvSchema.Text
