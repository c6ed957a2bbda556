import CsvSchema.Decimal.Binary64

/-!
# The shortest decimal text of a number

The digits printed are the fewest that read back as the same number, and of those the nearest to
it.  They are written out in full, without an exponent.  For each count of digits in turn the two
neighbours of the number on that decimal grid are tested in exact arithmetic.
-/

namespace CsvSchema.Decimal

/-- A fraction of units. -/
structure Ratio where
  numerator : Nat
  denominator : Nat

/-- The numbers that round to one number: `low ≤ x ≤ high`, the ends excluded
unless `closed`.  All three are in quarter units. -/
structure RoundingInterval where
  low : Nat
  high : Nat
  closed : Bool

/-- The reals that round to a number of units.  Below a power of two the
neighbours are half as far away. -/
def RoundingInterval.around (units : Nat) : RoundingInterval :=
  let exponent := Binary64.spacingExponent units
  let spacing := Nat.pow 2 exponent
  let below := if 0 < exponent && units == Nat.pow 2 units.log2 then spacing else 2 * spacing
  ⟨4 * units - below, 4 * units + 2 * spacing, units / spacing % 2 == 0⟩

/-- Whether a decimal `digits` times ten to the `exponent` rounds to the number
whose interval this is. -/
def RoundingInterval.holds (interval : RoundingInterval) (digits : Nat) (exponent : Int) : Bool :=
  let x : Ratio :=
    if 0 ≤ exponent then ⟨digits * Nat.pow 10 exponent.toNat * 4 * Nat.pow 2 Binary64.unitsInOne, 1⟩
    else ⟨digits * 4 * Nat.pow 2 Binary64.unitsInOne, Nat.pow 10 (-exponent).toNat⟩
  let low := interval.low * x.denominator
  let high := interval.high * x.denominator
  if interval.closed then low ≤ x.numerator && x.numerator ≤ high
  else low < x.numerator && x.numerator < high

/-- The number of units divided by ten to the `exponent`, in ones. -/
def scaledBy (units : Nat) (exponent : Int) : Ratio :=
  if 0 ≤ exponent then ⟨units, Nat.pow 2 Binary64.unitsInOne * Nat.pow 10 exponent.toNat⟩
  else ⟨units * Nat.pow 10 (-exponent).toNat, Nat.pow 2 Binary64.unitsInOne⟩

/-- The neighbour on the grid of ten to the `exponent` that rounds to the number,
the nearer one if both do, and the upper one if they are equally near. -/
def neighbour? (units : Nat) (exponent : Int) : Option Nat :=
  let interval := RoundingInterval.around units
  let x := scaledBy units exponent
  let lower := x.numerator / x.denominator
  let rest := x.numerator % x.denominator
  let upper := if rest = 0 then lower else lower + 1
  match interval.holds lower exponent, interval.holds upper exponent with
  | true, true => some (if 2 * rest < x.denominator then lower else upper)
  | true, false => some lower
  | false, true => some upper
  | false, false => none

/-- The first hit on the grids from `exponent` downwards. -/
def shortestFrom (units : Nat) (exponent : Int) : Nat → Nat × Int
  | 0 => (0, 0)
  | fuel + 1 =>
      match neighbour? units exponent with
      | some digits => (digits, exponent)
      | none => shortestFrom units (exponent - 1) fuel

/-- The exponent of the decimal digit in front of a number of units, or a little more. -/
def leadingExponent (units : Nat) : Int :=
  ((units.log2 : Int) - Binary64.unitsInOne) * 30103 / 100000 + 1

/-- The shortest digits of a number that is not zero and the power of ten they count. -/
def shortestDigits (units : Nat) : Nat × Int :=
  shortestFrom units (leadingExponent units) 20

/-- Digits times ten to the `exponent`, written without an exponent. -/
def positional (value : Nat) (exponent : Int) : List Char :=
  let ds := digits value
  if 0 ≤ exponent then ds ++ List.replicate exponent.toNat '0'
  else
    let places := (-exponent).toNat
    let ds := List.replicate (places + 1 - ds.length) '0' ++ ds
    ds.take (ds.length - places) ++ '.' :: ds.drop (ds.length - places)

/-- The text of a number: the shortest digits, in full.  Negative zero keeps its sign. -/
def Binary64.text (x : Binary64) : String :=
  let body :=
    if x.units = 0 then ['0']
    else
      let (value, exponent) := shortestDigits x.units
      positional value exponent
  String.ofList (if x.negative then '-' :: body else body)

end CsvSchema.Decimal
