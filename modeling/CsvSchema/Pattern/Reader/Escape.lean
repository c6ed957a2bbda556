import CsvSchema.Pattern.Expression
import CsvSchema.Text.Blank
import CsvSchema.Text.CodeSet
import CsvSchema.Decimal.Natural

/-!
# Escapes in patterns

A backslash starts a character by its code, a class with a letter of its own, a character property,
a test of a place, or stands before a character that is taken as it is.  References to groups do
not exist.  Where blanks are to be ignored they are, also inside the parts of an escape.
-/

namespace CsvSchema.Pattern

open Text (isBlank hexDigit? hexValue splitFirst?)

/-- Skip blanks and comments, which run from `#` to the end of the line. -/
def skipIgnored (comment : Bool) : List Char → List Char
  | [] => []
  | c :: rest =>
      if comment then skipIgnored (c != '\n') rest
      else if isBlank c then skipIgnored false rest
      else if c == '#' then skipIgnored true rest
      else c :: rest

/-- Skip blanks and comments if they are to be ignored. -/
def skip (ignoring : Bool) (s : List Char) : List Char :=
  if ignoring then skipIgnored false s else s

/-- The characters up to a closing brace, and the rest after it. -/
def readBraced? (ignoring comment : Bool) : List Char → Option (List Char × List Char)
  | [] => none
  | c :: rest =>
      if comment then readBraced? ignoring (c != '\n') rest
      else if ignoring && isBlank c then readBraced? ignoring false rest
      else if ignoring && c == '#' then readBraced? ignoring true rest
      else if c == '\x7d' then some ([], rest)
      else (readBraced? ignoring false rest).map fun found => (c :: found.1, found.2)

/-- The characters that `p` accepts, and the rest after ignored ones. -/
def readWhile (p : Char → Bool) (ignoring comment : Bool) : List Char → List Char × List Char
  | [] => ([], [])
  | c :: rest =>
      if comment then readWhile p ignoring (c != '\n') rest
      else if ignoring && isBlank c then readWhile p ignoring false rest
      else if ignoring && c == '#' then readWhile p ignoring true rest
      else if p c then
        let found := readWhile p ignoring false rest
        (c :: found.1, found.2)
      else ([], c :: rest)

/-- Characters that mean something in a pattern. -/
def isMeta (c : Char) : Bool := "\\.+*?()|[]\x7b\x7d^$#&-~".toList.contains c

/-- Characters that a backslash may stand before without changing them. -/
def isEscapable (c : Char) : Bool :=
  isMeta c || (c.toNat < 0x80 && !c.isAlphanum && c != '<' && c != '>')

/-- The character with a code. -/
def charOfCode? (code : Nat) : Option Char :=
  if h : code.isValidChar then some (Char.ofNatAux code h) else none

/-- The literal that hexadecimal digits write. -/
def literalOfHex? (byteForm : Bool) (digits : List Char) : Option Atom :=
  if digits.isEmpty || !digits.all fun c => (hexDigit? c).isSome then none
  else (charOfCode? (hexValue digits)).map fun c => .literal ⟨c, byteForm⟩

/-- Exactly `n` characters, with ignored ones between them. -/
def readExactly? (ignoring : Bool) : Nat → List Char → Option (List Char × List Char)
  | 0, s => some ([], s)
  | n + 1, s =>
      match skip ignoring s with
      | [] => none
      | c :: rest => (readExactly? ignoring n rest).map fun found => (c :: found.1, found.2)

/-- The rest of an escape by code, after the letter that starts it. -/
def readCode? (ignoring : Bool) (letter : Char) (s : List Char) : Option (Atom × List Char) :=
  match skip ignoring s with
  | '\x7b' :: rest =>
      (readBraced? ignoring false rest).bind fun (digits, rest) =>
        (literalOfHex? false digits).map (·, rest)
  | s =>
      let width := if letter == 'x' then 2 else if letter == 'u' then 4 else 8
      (readExactly? ignoring width s).bind fun (digits, rest) =>
        (literalOfHex? (letter == 'x') digits).map (·, rest)

/-- Split at the first `!=`. -/
def splitUnequal? : List Char → Option (List Char × List Char)
  | '!' :: '=' :: rest => some ([], rest)
  | c :: rest => (splitUnequal? rest).map fun parts => (c :: parts.1, parts.2)
  | [] => none

/-- The property that the text between braces asks for. -/
def propertyOfName (negated : Bool) (name : List Char) : Atom :=
  match splitUnequal? name with
  | some (property, value) => .property (!negated) (.valued property value)
  | none =>
      match splitFirst? ':' name with
      | some (property, value) => .property negated (.valued property value)
      | none =>
          match splitFirst? '=' name with
          | some (property, value) => .property negated (.valued property value)
          | none => .property negated (.named name)

/-- The rest of a character property, after the letter that starts it. -/
def readProperty? (ignoring negated : Bool) (s : List Char) : Option (Atom × List Char) :=
  match skip ignoring s with
  | [] => none
  | '\x7b' :: rest =>
      (readBraced? ignoring false rest).map fun (name, rest) => (propertyOfName negated name, rest)
  | c :: rest => if c == '\\' then none else some (.property negated (.named [c]), rest)

/-- The test that a word in braces after `\b` names. -/
def boundaryOfName? (name : List Char) : Option Assertion :=
  if name = "start".toList then some .wordStart
  else if name = "end".toList then some .wordEnd
  else if name = "start-half".toList then some .wordStartHalf
  else if name = "end-half".toList then some .wordEndHalf
  else none

/-- Whether a character may stand in the name of a word boundary. -/
def isBoundaryChar (c : Char) : Bool := c.isAlpha || c == '-'

/-- The rest of a word boundary.  Braces belong to it if they start like a name;
otherwise they are left for a count. -/
def readBoundary? (ignoring : Bool) (s : List Char) : Option (Atom × List Char) :=
  match s with
  | '\x7b' :: inside =>
      match skip ignoring inside with
      | [] => none
      | c :: _ =>
          if isBoundaryChar c then
            match readWhile isBoundaryChar ignoring false inside with
            | (name, '\x7d' :: rest) =>
                (boundaryOfName? name).map fun boundary => (.assertion boundary, rest)
            | _ => none
          else some (.assertion .wordBoundary, s)
  | _ => some (.assertion .wordBoundary, s)

/-- The character that a letter stands for after a backslash. -/
def controlOfLetter? : Char → Option Char
  | 'a' => some '\x07'
  | 'f' => some '\x0c'
  | 't' => some '\t'
  | 'n' => some '\n'
  | 'r' => some '\r'
  | 'v' => some '\x0b'
  | _ => none

/-- The class or the test of a place that a letter stands for after a backslash. -/
def atomOfLetter? : Char → Option Atom
  | 'd' => some (.short false .digit)
  | 's' => some (.short false .space)
  | 'w' => some (.short false .word)
  | 'D' => some (.short true .digit)
  | 'S' => some (.short true .space)
  | 'W' => some (.short true .word)
  | 'A' => some (.assertion .textStart)
  | 'z' => some (.assertion .textEnd)
  | 'B' => some (.assertion .notWordBoundary)
  | '<' => some (.assertion .wordStart)
  | '>' => some (.assertion .wordEnd)
  | c => (controlOfLetter? c).map fun c => .literal ⟨c, false⟩

/-- What follows a backslash. -/
def readEscape? (ignoring : Bool) : List Char → Option (Atom × List Char)
  | [] => none
  | c :: rest =>
      if c == 'x' || c == 'u' || c == 'U' then readCode? ignoring c rest
      else if c == 'p' || c == 'P' then readProperty? ignoring (c == 'P') rest
      else if c == 'b' then readBoundary? ignoring rest
      else if isEscapable c then some (.literal ⟨c, false⟩, rest)
      else (atomOfLetter? c).map (·, rest)

end CsvSchema.Pattern
