import CsvSchema.Json.Basic

/-!
# Reading JSON

The grammar is the standard one, without comments, trailing commas or any other leniency.  The
reader goes down with a bound on its steps, which the length of the text always meets.
-/

namespace CsvSchema.Json

/-- Whether a character may stand between tokens. -/
def isJsonBlank (c : Char) : Bool := c == ' ' || c == '\n' || c == '\t' || c == '\r'

/-- Drop the blanks in front of a token. -/
def skipBlank (s : List Char) : List Char := s.dropWhile isJsonBlank

/-- The character that a one-letter escape stands for. -/
def simpleEscape? : Char → Option Char
  | '"' => some '"'
  | '\\' => some '\\'
  | '/' => some '/'
  | 'b' => some '\x08'
  | 'f' => some '\x0c'
  | 'n' => some '\n'
  | 'r' => some '\r'
  | 't' => some '\t'
  | _ => none

/-- The value of a hexadecimal digit of either case. -/
def hexDigit? (c : Char) : Option Nat :=
  if '0' ≤ c && c ≤ '9' then some (c.toNat - 48)
  else if 'a' ≤ c && c ≤ 'f' then some (c.toNat - 87)
  else if 'A' ≤ c && c ≤ 'F' then some (c.toNat - 55)
  else none

/-- The number that four hexadecimal digits write. -/
def hexUnit? (a b c d : Char) : Option Nat :=
  match hexDigit? a, hexDigit? b, hexDigit? c, hexDigit? d with
  | some a, some b, some c, some d => some (((a * 16 + b) * 16 + c) * 16 + d)
  | _, _, _, _ => none

/-- The rest of a string after its opening quote, and what follows the closing one. -/
def readString? : List Char → Option (List StringUnit × List Char)
  | [] => none
  | '"' :: rest => some ([], rest)
  | '\\' :: 'u' :: a :: b :: c :: d :: rest =>
      match hexUnit? a b c d with
      | some n => (readString? rest).map fun r => (.coded n :: r.1, r.2)
      | none => none
  | '\\' :: e :: rest =>
      match simpleEscape? e with
      | some c => (readString? rest).map fun r => (.plain c :: r.1, r.2)
      | none => none
  | c :: rest =>
      if c.toNat < 0x20 || c == '\\' then none
      else (readString? rest).map fun r => (.plain c :: r.1, r.2)

/-- The digits in front of a text and the rest. -/
def spanDigits (s : List Char) : List Char × List Char :=
  (s.takeWhile Decimal.isDigit, s.dropWhile Decimal.isDigit)

/-- The fraction of a number: nothing, or a point and at least one digit. -/
def readFraction? : List Char → Option (List Char × List Char)
  | '.' :: rest =>
      let (ds, after) := spanDigits rest
      if ds.isEmpty then none else some ('.' :: ds, after)
  | s => some ([], s)

/-- The exponent of a number: nothing, or a mark, an optional sign and at least one digit. -/
def readExponent? : List Char → Option (List Char × List Char)
  | mark :: rest =>
      if mark == 'e' || mark == 'E' then
        let (sign, rest) := match rest with
          | '+' :: r => (['+'], r)
          | '-' :: r => (['-'], r)
          | r => ([], r)
        let (ds, after) := spanDigits rest
        if ds.isEmpty then none else some (mark :: sign ++ ds, after)
      else some ([], mark :: rest)
  | [] => some ([], [])

/-- A number: an optional minus, digits without needless zeros, a fraction and an exponent. -/
def readNumber? (s : List Char) : Option (List Char × List Char) :=
  let (sign, rest) := match s with
    | '-' :: r => (['-'], r)
    | r => ([], r)
  let (whole, rest) := spanDigits rest
  if whole.isEmpty || (whole.head? == some '0' && whole.length != 1) then none
  else
    (readFraction? rest).bind fun (fraction, rest) =>
      (readExponent? rest).map fun (exponent, rest) =>
        (sign ++ whole ++ fraction ++ exponent, rest)

/-- The value after a literal name, if the text begins with the name. -/
def readName? (name : List Char) (value : Value) (s : List Char) : Option (Value × List Char) :=
  (Text.dropStart? name s).map fun rest => (value, rest)

mutual

/-- A value at the front of a text, blanks before it dropped. -/
def readValue? : Nat → List Char → Option (Value × List Char)
  | 0, _ => none
  | fuel + 1, s =>
      match skipBlank s with
      | '{' :: rest =>
          match skipBlank rest with
          | '}' :: rest => some (.object [], rest)
          | rest => (readMembers? fuel rest).map fun r => (.object r.1, r.2)
      | '[' :: rest =>
          match skipBlank rest with
          | ']' :: rest => some (.array [], rest)
          | rest => (readItems? fuel rest).map fun r => (.array r.1, r.2)
      | '"' :: rest => (readString? rest).map fun r => (.string r.1, r.2)
      | 't' :: rest => readName? "rue".toList (.bool true) rest
      | 'f' :: rest => readName? "alse".toList (.bool false) rest
      | 'n' :: rest => readName? "ull".toList .null rest
      | rest => (readNumber? rest).map fun r => (.number r.1, r.2)

/-- The items of an array that is not empty, and what follows its bracket. -/
def readItems? : Nat → List Char → Option (List Value × List Char)
  | 0, _ => none
  | fuel + 1, s =>
      match readValue? fuel s with
      | none => none
      | some (value, rest) =>
          match skipBlank rest with
          | ',' :: rest => (readItems? fuel rest).map fun r => (value :: r.1, r.2)
          | ']' :: rest => some ([value], rest)
          | _ => none

/-- The members of an object that is not empty, and what follows its brace. -/
def readMembers? : Nat → List Char → Option (List (List StringUnit × Value) × List Char)
  | 0, _ => none
  | fuel + 1, s =>
      match skipBlank s with
      | '"' :: rest =>
          match readString? rest with
          | none => none
          | some (name, rest) =>
              match skipBlank rest with
              | ':' :: rest =>
                  match readValue? fuel rest with
                  | none => none
                  | some (value, rest) =>
                      match skipBlank rest with
                      | ',' :: rest =>
                          (readMembers? fuel rest).map fun r => ((name, value) :: r.1, r.2)
                      | '}' :: rest => some ([(name, value)], rest)
                      | _ => none
              | _ => none
      | _ => none

end

/-- The value that a whole text writes. -/
def read? (text : String) : Option Value :=
  match readValue? (text.length + 1) text.toList with
  | some (value, rest) => if (skipBlank rest).isEmpty then some value else none
  | none => none

end CsvSchema.Json
