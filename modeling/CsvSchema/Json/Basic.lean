import CsvSchema.Decimal.Binary64

/-!
# JSON documents as they are written

A document keeps what its reader may still have to judge: the units of each string, since an
escape can name half of a surrogate pair, the spelling of each number, and every member of an
object in order, repeated names included.  What a member that nobody reads holds need not be
meaningful, only well-formed.
-/

namespace CsvSchema.Json

/-- One unit of a string: a character, or a number given by an escape. -/
inductive StringUnit where
  | plain (c : Char)
  | coded (n : Nat)
  deriving Repr, DecidableEq

/-- A JSON value. -/
inductive Value where
  | null
  | bool (value : Bool)
  | number (spelling : List Char)
  | string (units : List StringUnit)
  | array (items : List Value)
  | object (members : List (List StringUnit × Value))

/-- The first of the numbers that make the first half of a surrogate pair. -/
def highSurrogate (n : Nat) : Bool := 0xD800 ≤ n && n ≤ 0xDBFF

/-- Whether a number is the second half of a surrogate pair. -/
def lowSurrogate (n : Nat) : Bool := 0xDC00 ≤ n && n ≤ 0xDFFF

/-- The characters that units spell, or none if half of a surrogate pair stands alone. -/
def unitsText? : List StringUnit → Option (List Char)
  | [] => some []
  | .plain c :: rest => (unitsText? rest).map (c :: ·)
  | .coded n :: .coded m :: rest =>
      if highSurrogate n && lowSurrogate m then
        (unitsText? rest).map (Char.ofNat (0x10000 + (n - 0xD800) * 0x400 + (m - 0xDC00)) :: ·)
      else if highSurrogate n || lowSurrogate n then none
      else (unitsText? (.coded m :: rest)).map (Char.ofNat n :: ·)
  | .coded n :: rest =>
      if highSurrogate n || lowSurrogate n then none
      else (unitsText? rest).map (Char.ofNat n :: ·)

/-- The units of a text, none of them coded. -/
def unitsOf (s : String) : List StringUnit := s.toList.map .plain

/-- A string value. -/
def Value.ofString (s : String) : Value := .string (unitsOf s)

/-- A number value. -/
def Value.ofNat (n : Nat) : Value := .number (Decimal.digits n)

/-- A member of an object. -/
def member (name : String) (value : Value) : List StringUnit × Value := (unitsOf name, value)

/-- The text of a string value. -/
def Value.text? : Value → Option String
  | .string units => (unitsText? units).map String.ofList
  | _ => none

/-- A natural number of at most `limit`, written without a sign, a point or an exponent. -/
def Value.nat? (limit : Nat) : Value → Option Nat
  | .number spelling => if spelling.all Decimal.isDigit then Decimal.readNatural? limit spelling
    else none
  | _ => none

/-- The value of a flag. -/
def Value.bool? : Value → Option Bool
  | .bool value => some value
  | _ => none

mutual

/-- How deeply arrays and objects are nested. -/
def Value.height : Value → Nat
  | .array items => itemsHeight items + 1
  | .object members => membersHeight members + 1
  | _ => 0

/-- The height of the highest of some values. -/
def itemsHeight : List Value → Nat
  | [] => 0
  | value :: rest => max value.height (itemsHeight rest)

/-- The height of the highest of some members. -/
def membersHeight : List (List StringUnit × Value) → Nat
  | [] => 0
  | (_, value) :: rest => max value.height (membersHeight rest)

end

mutual

/-- Whether every string is a text and every number is within the range of 64-bit
floating point. -/
def Value.isSound : Value → Bool
  | .number spelling => (Decimal.readBinary64? spelling).isSome
  | .string units => (unitsText? units).isSome
  | .array items => itemsSound items
  | .object members => membersSound members
  | _ => true

/-- Whether all of some values are sound. -/
def itemsSound : List Value → Bool
  | [] => true
  | value :: rest => value.isSound && itemsSound rest

/-- Whether all of some members are sound. -/
def membersSound : List (List StringUnit × Value) → Bool
  | [] => true
  | (name, value) :: rest => (unitsText? name).isSome && value.isSound && membersSound rest

end

/-- Arrays and objects nested deeper than this are refused where they are read. -/
def maxHeight : Nat := 127

end CsvSchema.Json
