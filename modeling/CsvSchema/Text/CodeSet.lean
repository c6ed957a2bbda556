import CsvSchema.Text.Split

/-!
# Sets of code points

The properties of characters that the Unicode standard publishes are tables.  A table is written
here as runs of code points in hexadecimal: `41-5A` is every code point from 41 to 5A, `100-12E/2`
every second one from 100 to 12E, and `AA` a single one.  Runs are separated by blanks or line
breaks and stand in increasing order.
-/

namespace CsvSchema.Text

/-- Every `step`-th code point from `first` to `last`. -/
structure CodeRun where
  first : Nat
  last : Nat
  step : Nat
  deriving Repr, DecidableEq

/-- Whether a run holds a code point. -/
def CodeRun.holds (run : CodeRun) (code : Nat) : Bool :=
  run.first ≤ code && code ≤ run.last && (code - run.first) % run.step == 0

/-- A set of code points as a list of runs. -/
abbrev CodeSet := List CodeRun

/-- Whether a set of code points holds a character. -/
def CodeSet.holds (set : CodeSet) (c : Char) : Bool :=
  set.any (·.holds c.toNat)

/-- The value of a hexadecimal digit of either case. -/
def hexDigit? (c : Char) : Option Nat :=
  if '0' ≤ c && c ≤ '9' then some (c.toNat - '0'.toNat)
  else if 'A' ≤ c && c ≤ 'F' then some (c.toNat - 'A'.toNat + 10)
  else if 'a' ≤ c && c ≤ 'f' then some (c.toNat - 'a'.toNat + 10)
  else none

/-- The number that hexadecimal digits write.  Other characters count as zero. -/
def hexValue (digits : List Char) : Nat :=
  digits.foldl (fun value c => value * 16 + (hexDigit? c).getD 0) 0

/-- One run of a written table. -/
def CodeRun.read (word : List Char) : CodeRun :=
  let (range, step) :=
    match splitFirst? '/' word with
    | some (range, step) => (range, hexValue step)
    | none => (word, 1)
  match splitFirst? '-' range with
  | some (first, last) => ⟨hexValue first, hexValue last, step⟩
  | none => ⟨hexValue range, hexValue range, step⟩

/-- The set that a table writes. -/
def CodeSet.read (table : String) : CodeSet :=
  ((splitWhere (fun c => c == ' ' || c == '\n') table.toList).filter (!·.isEmpty)).map CodeRun.read

end CsvSchema.Text
