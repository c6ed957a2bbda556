import CsvSchema.Pattern.Simplification

/-!
# Sizes of regular expressions

The simple form of an expression is compiled to two machines over UTF-8 bytes, one for each
direction in which a text is read, and expressions with a machine that is too large are refused.
Repetition is written out.  There is one state for a byte and a branch for every choice; a choice
between texts is a tree of their bytes.  A set of characters is a branch for every sequence of byte
ranges backward, where sequences share what they have in common at the front, and a tree forward,
where points with the same continuations are one state.  Only forward does a machine note the bounds
of what groups match.
-/

namespace CsvSchema.Pattern

/-- The number of bytes of a state. -/
def stateSize : Nat := 32

/-- The number of bytes of a reference to a state. -/
def linkSize : Nat := 4

/-- The number of bytes of a byte range that leads to a state. -/
def rangeSize : Nat := 8

/-- Machines of more bytes than this are refused. -/
def maxMachineSize : Nat := 10485760

/-- The number of bytes of some things together. -/
def total (sizes : List Nat) : Nat := sizes.foldr (· + ·) 0

/-- The direction in which a machine reads a text. -/
inductive Direction where
  | forward
  | backward
  deriving Repr, DecidableEq

section Trees

variable {α : Type} [DecidableEq α]

/-- The letters that some words start with. -/
def firstLetters (words : List (List α)) : List α := (words.filterMap List.head?).eraseDups

/-- How the words go on that start with a letter. -/
def following (words : List (List α)) (letter : α) : List (List α) :=
  words.filterMap fun
    | [] => none
    | a :: rest => if a = letter then some rest else none

/-- How words of at most `length` letters go on from each of their letters, and
from their start. -/
def continuations : Nat → List (List α) → List (List (List α))
  | 0, _ => []
  | length + 1, words =>
      if words.all (·.isEmpty) then []
      else words ::
        (firstLetters words).flatMap fun letter => continuations length (following words letter)

/-- The number of different fronts of words that stand in order. -/
def frontCount : List α → List (List α) → Nat
  | _, [] => 0
  | before, word :: rest => (word.length - sharedFront before word) + frontCount word rest

end Trees

/-- A state that leads on with some ranges of bytes. -/
def rangesSize (count : Nat) : Nat :=
  if count = 1 then stateSize else stateSize + rangeSize * count

/-- The number of bytes of the states below a point of a tree of texts, with texts of at most
`length` bytes to come in order of preference.  What comes after a text that ends there is kept
apart from what comes before it. -/
def treeSize : Nat → List (List UInt8) → Nat
  | 0, _ => 0
  | length + 1, texts =>
      if texts.all (·.isEmpty) then 0
      else
        let ended := texts.takeWhile (·.isEmpty)
        let runs := (ended.take 1 ++ texts.drop ended.length).splitOn []
        let filled := runs.filter (!·.isEmpty)
        stateSize + linkSize * (filled.length + (runs.length - 1)) +
          total (filled.map fun run => rangesSize (firstLetters run).length) +
          total (filled.flatMap fun run =>
            (firstLetters run).map fun byte => treeSize length (following run byte))

/-- The number of bytes that the machine of a choice between texts needs. -/
def textsSize (direction : Direction) (texts : List (List UInt8)) : Nat :=
  let texts := if direction = .forward then texts else texts.map List.reverse
  stateSize + treeSize ((texts.map List.length).foldl max 0 + 1) texts

/-- The UTF-8 bytes of a code point. -/
def codeBytes (code : Nat) : List UInt8 := String.utf8EncodeChar (Char.ofNat code)

/-- A range of code points as sequences of ranges of digits of base 64, with `n` digits
after the first. -/
def digitRanges : Nat → CharRange → List (List CharRange)
  | 0, range => [[range]]
  | n + 1, range =>
      let base := Nat.pow 64 (n + 1)
      let low := range.first / base
      let high := range.last / base
      let front := fun lead rest => (digitRanges n rest).map (⟨lead, lead⟩ :: ·)
      if low = high then front low ⟨range.first % base, range.last % base⟩
      else
        let ragged := range.first % base ≠ 0
        let cut := range.last % base ≠ base - 1
        let middle : CharRange := ⟨if ragged then low + 1 else low, if cut then high - 1 else high⟩
        (if ragged then front low ⟨range.first % base, base - 1⟩ else []) ++
          (if middle.first ≤ middle.last then
            [middle :: List.replicate (n + 1) ⟨0, 63⟩] else []) ++
          (if cut then front high ⟨0, range.last % base⟩ else [])

/-- The code points that are written with one to four bytes, how many bytes follow the first,
and what that one is marked with. -/
def utf8Lengths : List (Nat × Nat × CharRange) :=
  [(0, 0, ⟨0, 0x7F⟩), (1, 0xC0, ⟨0x80, 0x7FF⟩), (2, 0xE0, ⟨0x800, 0xD7FF⟩),
    (2, 0xE0, ⟨0xE000, 0xFFFF⟩), (3, 0xF0, ⟨0x10000, maxCode⟩)]

/-- The sequences of byte ranges of a set, without the mark of the bytes that follow the first. -/
def byteSequences (set : CharSet) : List (List CharRange) :=
  utf8Lengths.flatMap fun (more, mark, codes) =>
    ((set.filterMap fun range => CharSet.common? range codes).flatMap (digitRanges more)).map fun
      | [] => []
      | lead :: rest => ⟨mark + lead.first, mark + lead.last⟩ :: rest

/-- The number of bytes that the machine of a set needs. -/
def setSize (direction : Direction) (set : CharSet) : Nat :=
  if set.isAscii then 2 * stateSize + rangeSize * set.length
  else
    let sequences := byteSequences set
    match direction with
    | .forward => stateSize + total ((continuations 4 sequences).eraseDups.map fun words =>
        stateSize + rangeSize * (firstLetters words).length)
    | .backward => 2 * stateSize + linkSize * sequences.length + stateSize * frontCount [] sequences

namespace Regex

/-- The number of characters that a simple expression consumes at least, if it can match. -/
def minLength? : Regex → Option Nat
  | empty => some 0
  | chars set => if set.isEmpty then none else some 1
  | place _ => some 0
  | both first second =>
      match first.minLength?, second.minLength? with
      | some first, some second => some (first + second)
      | _, _ => none
  | either left right =>
      match left.minLength?, right.minLength? with
      | some left, some right => some (min left right)
      | _, _ => none
  | repeated count body => body.minLength?.map (count.min * ·)
  | group _ body => body.minLength?

/-- The bytes of an expression that is a text. -/
def text? (r : Regex) : Option (List UInt8) :=
  if r = empty then none else (r.parts.mapM code?).map (·.flatMap codeBytes)

/-- The number of bytes that a repetition needs, given that of its body. -/
def repeatedSize (count : Count) (consumes : Bool) (body : Nat) : Nat :=
  match count.min, count.max with
  | 0, none =>
      if consumes then body + stateSize + 2 * linkSize else body + 3 * stateSize + 4 * linkSize
  | min, none => min * body + stateSize + 2 * linkSize
  | 0, some 1 => body + 2 * stateSize + 2 * linkSize
  | min, some max =>
      (if min = 0 then stateSize else min * body) +
        (max - min) * (body + stateSize + 2 * linkSize) + if min = max then 0 else stateSize

/-- The number of bytes of a choice, given those of its branches. -/
def choiceSize (direction : Direction) (r : Regex) : List Nat → Nat
  | [size] => size
  | sizes =>
      match r.branches.mapM text? with
      | some texts => textsSize direction texts
      | none => 2 * stateSize + total (sizes.map (· + linkSize))

/-- The numbers of bytes of the branches of an expression. -/
def branchSizes (direction : Direction) : Regex → List Nat
  | empty => [stateSize]
  | chars set =>
      [match (chars set).code? with
        | some code => stateSize * (codeBytes code).length
        | none => setSize direction set]
  | place _ => [stateSize]
  | both first second =>
      [choiceSize direction first (first.branchSizes direction) +
        choiceSize direction second (second.branchSizes direction)]
  | either left right => left.branchSizes direction ++ right.branchSizes direction
  | repeated count body =>
      [repeatedSize count (body.minLength?.any (0 < ·))
        (choiceSize direction body (body.branchSizes direction))]
  | group captures body =>
      [choiceSize direction body (body.branchSizes direction) +
        if captures && direction = .forward then 2 * stateSize else 0]

/-- The number of bytes that the machine of a simple expression needs. -/
def size (direction : Direction) (r : Regex) : Nat :=
  choiceSize direction r (r.branchSizes direction)

/-- The number of bytes of the larger machine of an expression.  There is a state in front and one
behind, and forward the bounds of the match. -/
def machineSize (r : Regex) : Nat :=
  max (r.simplify.size .forward + 4 * stateSize) (r.simplify.size .backward + 2 * stateSize)

end Regex

end CsvSchema.Pattern
