import CsvSchema.Uri.NameTable
import CsvSchema.Uri.DirectionTable
import CsvSchema.Uri.JoiningTable
import CsvSchema.Uri.Punycode
import CsvSchema.Text.Case
import CsvSchema.Decimal.Natural
import CsvSchema.Pattern.Property.Lookup

/-!
# Domain names

A domain name may hold characters outside of ASCII.  Characters are replaced by what they stand
for, and then each label has to be sound: it does not begin with a mark, joiners stand only where
they change how letters join, and labels of both writing directions are not mixed in ways that
make them hard to read.
-/

namespace CsvSchema.Uri

open Text (CaseRun CodeSet splitOn dropStart?)

/-- Whether a character is ASCII. -/
def isAscii (c : Char) : Bool := c.toNat < 0x80

/-- Whether an ASCII character must not stand in a domain name. -/
def isForbidden (c : Char) : Bool :=
  c.toNat ≤ 0x20 || c.toNat == 0x7F || "%#/:<>?@[\\]^|".toList.contains c

/-- What a character stands for in a domain name, if it may stand there. -/
def nameForm? (c : Char) : Option (List Char) :=
  if isAscii c then if isForbidden c then none else some [c.toLower]
  else if validSet.holds c then some [c]
  else if ignoredSet.holds c then some []
  else
    match asciiFormRuns.findSome? (·.counterpart? c.toNat) with
    | some code => some [Char.ofNat code]
    | none =>
        match asciiTexts.find? (·.1 == c.toNat) with
        | some form => some form.2.toList
        | none => if otherFormSet.holds c then some [c] else none

/-- Whether a character is a mark. -/
def isMark (c : Char) : Bool := (Pattern.categoriesOf ["mn", "mc", "me"]).holds c

/-- Whether the letters around a place join across transparent characters.  `before`
is nearest first. -/
def joinsAcross (before after : List Char) : Bool :=
  (match before.dropWhile transparentSet.holds with
    | c :: _ => joinsBothSet.holds c || joinsForthSet.holds c
    | [] => false) &&
  match after.dropWhile transparentSet.holds with
  | c :: _ => joinsBothSet.holds c || joinsBackSet.holds c
  | [] => false

/-- Whether every joiner stands after a mark that takes the vowel; one that keeps
letters apart may also stand where they would join. -/
def joinersFit (before : List Char) : List Char → Bool
  | [] => true
  | c :: rest =>
      let afterVirama := match before with
        | p :: _ => viramaSet.holds p
        | [] => false
      (if c == '\u200d' then afterVirama
        else if c == '\u200c' then afterVirama || joinsAcross before rest
        else true) &&
      joinersFit (c :: before) rest

/-- The writing direction of a character. -/
inductive Direction where
  | left
  | right
  | arabicNumber
  | europeanNumber
  | nonspacing
  | neutral
  deriving Repr, DecidableEq

/-- The writing direction of a character. -/
def directionOf (c : Char) : Direction :=
  if isAscii c then
    if Decimal.isDigit c then .europeanNumber else if c.isAlpha then .left else .neutral
  else if rightToLeftSet.holds c then .right
  else if arabicNumberSet.holds c then .arabicNumber
  else if europeanNumberSet.holds c then .europeanNumber
  else if nonspacingSet.holds c then .nonspacing
  else if neutralSet.holds c then .neutral
  else .left

/-- Whether a label can be read in one direction. -/
def directionsFit (label : List Char) : Bool :=
  let directions := label.map directionOf
  let last := (Text.dropEndWhile (· == .nonspacing) directions).getLast?
  match directions with
  | [] => true
  | .right :: _ =>
      !directions.contains .left &&
        (last == some .right || last == some .europeanNumber || last == some .arabicNumber) &&
        !(directions.contains .europeanNumber && directions.contains .arabicNumber)
  | .left :: _ =>
      !directions.contains .right && !directions.contains .arabicNumber &&
        (last == some .left || last == some .europeanNumber)
  | _ => false

/-- Whether a label is written from right to left somewhere. -/
def needsDirection (label : List Char) : Bool :=
  label.any fun c => directionOf c == .right || directionOf c == .arabicNumber

/-- Whether a label with characters outside of ASCII is sound by itself. -/
def isSoundLabel (label : List Char) : Bool :=
  !(label.head?.any isMark) && joinersFit [] label

/-- The label that a label stands for, if it is sound. -/
def labelForm? (label : List Char) : Option (List Char) :=
  match dropStart? "xn--".toList label with
  | some code =>
      if !code.all isAscii then none
      else
        (Punycode.decode? code).bind fun decoded =>
          if decoded.any (!isAscii ·) && decoded.all (fun c => isAscii c || validSet.holds c) &&
              isSoundLabel decoded then
            some decoded
          else none
  | none => if label.all isAscii || isSoundLabel label then some label else none

/-- The domain name that a text writes, if it is sound.  Labels that stand for others
are decoded. -/
def domain? (s : List Char) : Option (List Char) :=
  (s.mapM nameForm?).bind fun forms =>
    ((splitOn '.' forms.flatten).mapM labelForm?).bind fun labels =>
      if labels.any needsDirection && !labels.all directionsFit then none
      else some (['.'].intercalate labels)

end CsvSchema.Uri
