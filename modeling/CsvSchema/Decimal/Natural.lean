import CsvSchema.Text.Blank

/-!
# Natural numbers in decimal

Reading takes one optional plus sign and any number of leading zeros, and refuses a value above a
limit.  Printing uses no sign and no leading zero.
-/

namespace CsvSchema.Decimal

/-- Whether a character is one of the ten ASCII digits. -/
def isDigit (c : Char) : Bool := '0' ≤ c && c ≤ '9'

/-- The value of an ASCII digit. -/
def digitValue (c : Char) : Nat := c.toNat - '0'.toNat

/-- The number that decimal digits write. -/
def digitsValue (digits : List Char) : Nat :=
  digits.foldl (fun value c => value * 10 + digitValue c) 0

/-- Whether a text is one or more digits and nothing else. -/
def isDigits (s : List Char) : Bool := !s.isEmpty && s.all isDigit

/-- Read a natural number of at most `limit`. -/
def readNatural? (limit : Nat) (s : List Char) : Option Nat :=
  let digits := match s with
    | '+' :: rest => rest
    | _ => s
  if isDigits digits && digitsValue digits ≤ limit then some (digitsValue digits) else none

/-- The largest value of 64 bits. -/
def maxWord64 : Nat := 18446744073709551615

/-- The largest value of 32 bits. -/
def maxWord32 : Nat := 4294967295

/-- The digit of a value below ten. -/
def digitChar (value : Nat) : Char := Char.ofNat ('0'.toNat + value)

/-- The decimal digits of a natural number. -/
def digits (n : Nat) : List Char :=
  if n < 10 then [digitChar n] else digits (n / 10) ++ [digitChar (n % 10)]

/-- The decimal text of a natural number. -/
def natText (n : Nat) : String := String.ofList (digits n)

/-- The decimal digits of a natural number, with zeros in front up to a width. -/
def paddedDigits (width n : Nat) : List Char :=
  let ds := digits n
  List.replicate (width - ds.length) '0' ++ ds

end CsvSchema.Decimal
