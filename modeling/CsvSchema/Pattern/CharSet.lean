import CsvSchema.Text.CodeSet

/-!
# Character sets of patterns

A set of characters is a list of ranges of code points.  Operations work on the normal form, in
which ranges stand in increasing order with a gap between each two of them, because what a pattern
costs depends on the number of ranges.
-/

namespace CsvSchema.Pattern

/-- The code points from `first` to `last`. -/
structure CharRange where
  first : Nat
  last : Nat
  deriving Repr, DecidableEq

/-- A set of characters as ranges of code points. -/
abbrev CharSet := List CharRange

/-- The largest code point. -/
def maxCode : Nat := 0x10FFFF

/-- Whether a range holds a code point. -/
def CharRange.holds (range : CharRange) (code : Nat) : Bool :=
  range.first ≤ code && code ≤ range.last

namespace CharSet

/-- Whether a set holds a code point. -/
def holdsCode (set : CharSet) (code : Nat) : Bool := set.any (·.holds code)

/-- Whether a set holds a character. -/
def holds (set : CharSet) (c : Char) : Bool := holdsCode set c.toNat

/-- The set of one character. -/
def single (c : Char) : CharSet := [⟨c.toNat, c.toNat⟩]

/-- Merge a run of ranges into one while they touch it. -/
def absorb (range : CharRange) : CharSet → CharSet
  | [] => [range]
  | next :: rest =>
      if next.first ≤ range.last + 1 then absorb ⟨range.first, max range.last next.last⟩ rest
      else range :: absorb next rest

/-- The normal form of a set. -/
def normal (set : CharSet) : CharSet :=
  match set.mergeSort (fun a b => a.first ≤ b.first) with
  | [] => []
  | range :: rest => absorb range rest

/-- The characters in one of two sets. -/
def union (a b : CharSet) : CharSet := normal (a ++ b)

/-- The gaps between ranges in normal form, from `start` on. -/
def gapsFrom (start : Nat) : CharSet → CharSet
  | [] => if start ≤ maxCode then [⟨start, maxCode⟩] else []
  | range :: rest =>
      if start < range.first then ⟨start, range.first - 1⟩ :: gapsFrom (range.last + 1) rest
      else gapsFrom (range.last + 1) rest

/-- The characters that are not in a set. -/
def negate (set : CharSet) : CharSet := gapsFrom 0 (normal set)

/-- The part of a range inside another one. -/
def common? (a b : CharRange) : Option CharRange :=
  let first := max a.first b.first
  let last := min a.last b.last
  if first ≤ last then some ⟨first, last⟩ else none

/-- The characters in both of two sets. -/
def intersect (a b : CharSet) : CharSet :=
  normal (a.flatMap fun range => b.filterMap (common? range))

/-- The characters of the first set that are not in the second one. -/
def difference (a b : CharSet) : CharSet := intersect a (negate b)

/-- The characters in exactly one of two sets. -/
def symmetricDifference (a b : CharSet) : CharSet := union (difference a b) (difference b a)

/-- The ranges of one run of a table. -/
def ofRun (run : Text.CodeRun) : CharSet :=
  if run.step = 1 then [⟨run.first, run.last⟩]
  else (List.range ((run.last - run.first) / run.step + 1)).map fun i =>
    ⟨run.first + i * run.step, run.first + i * run.step⟩

/-- The set of a table. -/
def ofTable (table : Text.CodeSet) : CharSet := normal (table.flatMap ofRun)

/-- Whether all characters of a set are ASCII. -/
def isAscii (set : CharSet) : Bool := set.all (·.last ≤ 0x7F)

end CharSet

end CsvSchema.Pattern
