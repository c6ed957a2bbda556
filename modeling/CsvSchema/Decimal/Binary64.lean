import CsvSchema.Decimal.Natural

/-!
# Finite binary floating point numbers of 64 bits

Every finite number is a whole multiple of 2⁻¹⁰⁷⁴, so a sign and a natural number of such units
hold it exactly and comparison is comparison of integers.  Zero has two forms, which compare equal
and print differently.

A number is written with an optional sign, digits with at most one point among or around them, and
an optional exponent.  The value is rounded to the nearest finite number; what is too large is
refused, and so are the names of infinity and of not-a-number, which no bound and no value may use.
-/

namespace CsvSchema.Decimal

/-- A finite number: `units` times 2⁻¹⁰⁷⁴, with a sign. -/
structure Binary64 where
  negative : Bool
  units : Nat
  deriving Repr, DecidableEq

namespace Binary64

/-- There are 2 to this power of units in one. -/
def unitsInOne : Nat := 1074

/-- The first number of units that is too large for a finite number. -/
def infinityUnits : Nat := Nat.pow 2 (1024 + unitsInOne)

/-- The signed number of units. -/
def toInt (x : Binary64) : Int := if x.negative then -(x.units : Int) else x.units

/-- Numeric order.  The two zeros are below and above each other. -/
instance : LE Binary64 := ⟨fun a b => a.toInt ≤ b.toInt⟩

instance (a b : Binary64) : Decidable (a ≤ b) := inferInstanceAs (Decidable (a.toInt ≤ b.toInt))

/-- The distance between neighbouring numbers around a number of units, as a
power of two: 53 bits are kept. -/
def spacingExponent (units : Nat) : Nat :=
  if units < Nat.pow 2 53 then 0 else units.log2 - 52

/-- Divide and round to the nearest whole number, a half to the even one. -/
def divideToEven (numerator denominator : Nat) : Nat :=
  let quotient := numerator / denominator
  let rest := numerator % denominator
  if 2 * rest < denominator then quotient
  else if denominator < 2 * rest then quotient + 1
  else if quotient % 2 == 0 then quotient
  else quotient + 1

/-- The units of the number nearest to `numerator / denominator` units, a tie
going to the one with the even last bit. -/
def nearestUnits (numerator denominator : Nat) : Nat :=
  let exponent := spacingExponent (numerator / denominator)
  divideToEven numerator (denominator * Nat.pow 2 exponent) * Nat.pow 2 exponent

/-- The units nearest to `significand` times ten to the `exponent`, or none if
that is too large.  Exponents far outside the range are decided without
computing the power. -/
def nearestDecimal? (significand : Nat) (exponent : Int) : Option Nat :=
  let magnitude := exponent + (digits significand).length
  if significand = 0 || magnitude < -400 then some 0
  else if 400 < magnitude then none
  else
    let units :=
      if 0 ≤ exponent then
        nearestUnits (significand * Nat.pow 10 exponent.toNat * Nat.pow 2 unitsInOne) 1
      else
        nearestUnits (significand * Nat.pow 2 unitsInOne) (Nat.pow 10 (-exponent).toNat)
    if units < infinityUnits then some units else none

end Binary64

/-- Split a sign off; the flag says whether it is a minus. -/
def splitSign : List Char → Bool × List Char
  | '+' :: rest => (false, rest)
  | '-' :: rest => (true, rest)
  | s => (false, s)

/-- Read an exponent mark with its signed digits.  No text at all is exponent zero. -/
def readExponent? : List Char → Option Int
  | [] => some 0
  | mark :: rest =>
      if mark == 'e' || mark == 'E' then
        let (negative, digits) := splitSign rest
        if isDigits digits then
          some (if negative then -(digitsValue digits : Int) else digitsValue digits)
        else none
      else none

/-- Read a finite number. -/
def readBinary64? (s : List Char) : Option Binary64 :=
  let (negative, body) := splitSign s
  let whole := body.takeWhile isDigit
  let afterWhole := body.dropWhile isDigit
  let (fraction, afterFraction) := match afterWhole with
    | '.' :: rest => (rest.takeWhile isDigit, rest.dropWhile isDigit)
    | _ => ([], afterWhole)
  if whole.isEmpty && fraction.isEmpty then none
  else
    (readExponent? afterFraction).bind fun exponent =>
      (Binary64.nearestDecimal? (digitsValue (whole ++ fraction))
        (exponent - fraction.length)).map fun units => ⟨negative, units⟩

end CsvSchema.Decimal
