import CsvSchema.Json.Basic

/-!
# Printing JSON

Only the quote, the backslash and the control characters below U+0020 are escaped.  The compact
form has no blanks; the indented form puts every item and every member on a line of its own.
-/

namespace CsvSchema.Json

/-- A hexadecimal digit in lower case. -/
def hexDigitChar (n : Nat) : Char := Nat.digitChar n

/-- The spelling of a code unit as an escape of four digits. -/
def codedEscape (n : Nat) : List Char :=
  ['\\', 'u', hexDigitChar (n / 0x1000 % 16), hexDigitChar (n / 0x100 % 16),
    hexDigitChar (n / 0x10 % 16), hexDigitChar (n % 16)]

/-- The spelling of a character inside a string. -/
def escapeChar (c : Char) : List Char :=
  if c == '"' then ['\\', '"']
  else if c == '\\' then ['\\', '\\']
  else if c == '\x08' then ['\\', 'b']
  else if c == '\x09' then ['\\', 't']
  else if c == '\x0a' then ['\\', 'n']
  else if c == '\x0c' then ['\\', 'f']
  else if c == '\x0d' then ['\\', 'r']
  else if c.toNat < 0x20 then codedEscape c.toNat
  else [c]

/-- The spelling of one unit of a string. -/
def printUnit : StringUnit → List Char
  | .plain c => escapeChar c
  | .coded n => codedEscape n

/-- The spelling of a string with its quotes. -/
def printString (units : List StringUnit) : List Char :=
  '"' :: units.flatMap printUnit ++ ['"']

/-- What stands around and between the items of arrays and the members of objects. -/
structure Layout where
  /-- Text before an item at a depth. -/
  beforeItem : Nat → List Char
  /-- Text before a closing bracket at a depth. -/
  beforeClose : Nat → List Char
  /-- Text between a name and its value. -/
  colon : List Char

/-- No blanks at all. -/
def Layout.compact : Layout := ⟨fun _ => [], fun _ => [], [':']⟩

/-- A line for each item, indented by two blanks a level. -/
def Layout.indented : Layout :=
  let line := fun depth => '\n' :: List.replicate (2 * depth) ' '
  ⟨line, line, [':', ' ']⟩

mutual

/-- The text of a value whose items stand at `depth`. -/
def printValue (layout : Layout) (depth : Nat) : Value → List Char
  | .null => "null".toList
  | .bool true => "true".toList
  | .bool false => "false".toList
  | .number spelling => spelling
  | .string units => printString units
  | .array [] => ['[', ']']
  | .array (item :: rest) =>
      '[' :: layout.beforeItem depth ++ printValue layout (depth + 1) item ++
        printItems layout depth rest ++ layout.beforeClose (depth - 1) ++ [']']
  | .object [] => ['\x7b', '\x7d']
  | .object ((name, value) :: rest) =>
      '\x7b' :: layout.beforeItem depth ++ printString name ++ layout.colon ++
        printValue layout (depth + 1) value ++
        printMembers layout depth rest ++ layout.beforeClose (depth - 1) ++ ['\x7d']

/-- The text of the items after the first, each with the comma before it. -/
def printItems (layout : Layout) (depth : Nat) : List Value → List Char
  | [] => []
  | item :: rest =>
      ',' :: layout.beforeItem depth ++ printValue layout (depth + 1) item ++
        printItems layout depth rest

/-- The text of the members after the first, each with the comma before it. -/
def printMembers (layout : Layout) (depth : Nat) :
    List (List StringUnit × Value) → List Char
  | [] => []
  | (name, value) :: rest =>
      ',' :: layout.beforeItem depth ++ printString name ++ layout.colon ++
        printValue layout (depth + 1) value ++ printMembers layout depth rest

end

/-- The text of a value without blanks. -/
def Value.compact (value : Value) : String :=
  String.ofList (printValue .compact 1 value)

/-- The text of a value with a line for each item. -/
def Value.indented (value : Value) : String :=
  String.ofList (printValue .indented 1 value)

end CsvSchema.Json
