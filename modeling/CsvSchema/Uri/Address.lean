import CsvSchema.Decimal.Natural
import CsvSchema.Text.CodeSet

/-!
# Addresses in host names

A host name whose last part is a number is an address of four bytes: up to four numbers, decimal,
octal or hexadecimal, of which the last fills the bytes that the others leave.  An address in
brackets is eight groups of hexadecimal digits, of which one run of zeros may be left out and the
last two may be written as four decimal bytes.
-/

namespace CsvSchema.Uri

open Text (splitOn splitFirst? hexDigit? hexValue)

/-- Whether a text is hexadecimal digits only. -/
def isHex (s : List Char) : Bool := s.all fun c => (hexDigit? c).isSome

/-- Whether a text is octal digits only. -/
def isOctal (s : List Char) : Bool := s.all fun c => '0' ≤ c && c ≤ '7'

/-- The number that octal digits write. -/
def octalValue (s : List Char) : Nat :=
  s.foldl (fun value c => value * 8 + Decimal.digitValue c) 0

/-- A number of any base: hexadecimal after `0x`, octal after a zero, else decimal. -/
def readNumber? : List Char → Option Nat
  | [] => none
  | '0' :: 'x' :: digits => if isHex digits then some (hexValue digits) else none
  | '0' :: 'X' :: digits => if isHex digits then some (hexValue digits) else none
  | '0' :: c :: digits => if isOctal (c :: digits) then some (octalValue (c :: digits)) else none
  | digits => if digits.all Decimal.isDigit then some (Decimal.digitsValue digits) else none

/-- The parts of a name between dots, without an empty one at the end. -/
def nameParts (name : List Char) : List (List Char) :=
  let parts := splitOn '.' name
  if 1 < parts.length && parts.getLast? == some [] then parts.dropLast else parts

/-- Whether a name has to be an address. -/
def endsInNumber (name : List Char) : Bool :=
  match (nameParts name).getLast? with
  | none => false
  | some part => Decimal.isDigits part || (readNumber? part).isSome

/-- Whether a name is an address of four bytes. -/
def isAddress (name : List Char) : Bool :=
  let parts := nameParts name
  match parts.mapM readNumber? with
  | none => false
  | some numbers =>
      numbers.length ≤ 4 && numbers.dropLast.all (· ≤ 255) &&
        (numbers.getLast?.getD 0) < Nat.pow 256 (5 - numbers.length)

/-- Whether a text is a decimal byte without a leading zero. -/
def isDecimalByte (s : List Char) : Bool :=
  Decimal.isDigits s && (s.length == 1 || s.head? != some '0') && Decimal.digitsValue s ≤ 255

/-- Whether a text is four decimal bytes. -/
def isDecimalAddress (s : List Char) : Bool :=
  let parts := splitOn '.' s
  parts.length == 4 && parts.all isDecimalByte

/-- Whether a text is one to four hexadecimal digits. -/
def isGroup (s : List Char) : Bool := !s.isEmpty && s.length ≤ 4 && isHex s

/-- How many groups a text between colons counts for. -/
def groupCount? (last : Bool) (s : List Char) : Option Nat :=
  if isGroup s then some 1
  else if last && isDecimalAddress s then some 2
  else none

/-- How many groups parts between colons count for, where four decimal bytes may stand
at the end only. -/
def groupsCount? (last : Bool) : List (List Char) → Option Nat
  | [] => some 0
  | [part] => groupCount? last part
  | part :: rest =>
      match groupCount? false part, groupsCount? last rest with
      | some a, some b => some (a + b)
      | _, _ => none

/-- Split at the first two colons that stand together. -/
def splitGap? : List Char → Option (List Char × List Char)
  | ':' :: ':' :: rest => some ([], rest)
  | c :: rest => (splitGap? rest).map fun parts => (c :: parts.1, parts.2)
  | [] => none

/-- The parts between colons of a text that may be empty. -/
def groupParts (s : List Char) : List (List Char) := if s.isEmpty then [] else splitOn ':' s

/-- Whether a text is an address of eight groups. -/
def isGroupAddress (s : List Char) : Bool :=
  match splitGap? s with
  | none => groupsCount? true (groupParts s) == some 8
  | some (front, back) =>
      match groupsCount? false (groupParts front), groupsCount? true (groupParts back) with
      | some a, some b => a + b ≤ 7
      | _, _ => false

end CsvSchema.Uri
