import CsvSchema.Text.CaseTable

/-!
# Letter case

Lower case is the full mapping of Unicode: the capital I with a dot becomes two characters, and a
capital sigma becomes the final sigma exactly at the end of a word.  That last rule looks at the
neighbours of the letter, so the lower case of a text is not put together from the lower cases of
its parts.
-/

namespace CsvSchema.Text

/-- Whether a character has the property Uppercase. -/
def isUppercase (c : Char) : Bool := uppercaseSet.holds c

/-- Whether a character has the property Lowercase. -/
def isLowercase (c : Char) : Bool := lowercaseSet.holds c

/-- The counterpart of a code point that lies on the run. -/
def CaseRun.counterpart? (run : CaseRun) (code : Nat) : Option Nat :=
  if run.first ≤ code && code ≤ run.last && (code - run.first) % run.step == 0 then
    some (run.target + (code - run.first))
  else none

/-- The lower case form of a character by itself. -/
def lowerChar (c : Char) : List Char :=
  if c == '\u0130' then ['i', '\u0307']
  else [((lowerRuns.findSome? (·.counterpart? c.toNat)).map Char.ofNat).getD c]

/-- Whether the first character that case does not ignore is a cased one. -/
def startsCased (s : List Char) : Bool :=
  match s.dropWhile caseIgnorableSet.holds with
  | [] => false
  | c :: _ => casedSet.holds c

/-- The small sigma for a capital one: final after a cased character, unless
another cased character follows.  `before` is nearest first. -/
def lowerSigma (before after : List Char) : Char :=
  if startsCased before && !startsCased after then '\u03C2' else '\u03C3'

/-- The lower case of the rest of a text, given what stands before it, nearest
character first. -/
def lowerAfter (before : List Char) : List Char → List Char
  | [] => []
  | c :: rest =>
      let lower := if c == '\u03A3' then [lowerSigma before rest] else lowerChar c
      lower ++ lowerAfter (c :: before) rest

/-- The lower case of a text. -/
def lower (s : List Char) : List Char := lowerAfter [] s

/-- The lower case of a string. -/
def lowered (s : String) : String := String.ofList (lower s.toList)

/-- The lower case of a string if letter case is to be ignored, else the string. -/
def folded (fold : Bool) (s : String) : String := if fold then lowered s else s

end CsvSchema.Text
