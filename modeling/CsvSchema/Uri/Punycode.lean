/-!
# Punycode

A label of a domain name in ASCII can stand for one with other characters.  The characters outside
of ASCII are written as a list of numbers, each of which says how far the next insertion is from
the one before, counting places first and code points second.  Digits have a weight that depends
on how large the numbers before were.
-/

namespace CsvSchema.Uri.Punycode

/-- The value of a digit: letters come before decimal digits. -/
def digit? (c : Char) : Option Nat :=
  if 'a' ≤ c && c ≤ 'z' then some (c.toNat - 'a'.toNat)
  else if 'A' ≤ c && c ≤ 'Z' then some (c.toNat - 'A'.toNat)
  else if '0' ≤ c && c ≤ '9' then some (c.toNat - '0'.toNat + 26)
  else none

/-- Divide by 35 until at most 455 is left, counting the divisions in steps of 36. -/
def shrink (delta count : Nat) : Nat × Nat :=
  if 455 < delta then shrink (delta / 35) (count + 36) else (delta, count)
termination_by delta
decreasing_by omega

/-- The bias for the next number after one of size `delta`. -/
def adapt (delta points : Nat) (first : Bool) : Nat :=
  let delta := if first then delta / 700 else delta / 2
  let (delta, count) := shrink (delta + delta / points) 0
  count + 36 * delta / (delta + 38)

/-- The value from which on a digit ends a number. -/
def threshold (place bias : Nat) : Nat :=
  if place ≤ bias then 1 else if bias + 26 ≤ place then 26 else place - bias

/-- What has been decoded, and the number that is being read. -/
structure State where
  /-- The characters so far. -/
  text : List Char
  /-- The code point of the last insertion. -/
  code : Nat
  bias : Nat
  /-- Where the next number counts from. -/
  start : Nat
  /-- `start` with the digits read so far. -/
  sum : Nat
  weight : Nat
  place : Nat

/-- Insert a character before the one at an index. -/
def insertAt (index : Nat) (c : Char) (text : List Char) : List Char :=
  text.take index ++ c :: text.drop index

/-- Read a digit. -/
def State.read? (state : State) (c : Char) : Option State :=
  (digit? c).bind fun digit =>
    let sum := state.sum + digit * state.weight
    let least := threshold state.place state.bias
    if digit < least then
      let length := state.text.length + 1
      let code := state.code + sum / length
      let index := sum % length
      if h : code.isValidChar then
        some ⟨insertAt index (Char.ofNatAux code h) state.text, code,
          adapt (sum - state.start) length (state.start == 0), index + 1, index + 1, 1, 36⟩
      else none
    else if 4294967296 ≤ sum then none
    else some { state with sum := sum, weight := state.weight * (36 - least),
                           place := state.place + 36 }

/-- Split at the last hyphen that has something before it. -/
def splitBasic (label : List Char) : List Char × List Char :=
  let back := label.reverse
  let deltas := (back.takeWhile (· != '-')).reverse
  let basic := ((back.dropWhile (· != '-')).drop 1).reverse
  if basic.isEmpty then ([], label) else (basic, deltas)

/-- The label that a label in ASCII stands for, both without their mark. -/
def decode? (label : List Char) : Option (List Char) :=
  let (basic, deltas) := splitBasic label
  (deltas.foldlM State.read? ⟨basic, 128, 72, 0, 0, 1, 36⟩).bind fun state =>
    if state.place = 36 then some state.text else none

end CsvSchema.Uri.Punycode
