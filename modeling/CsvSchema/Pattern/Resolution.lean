import CsvSchema.Pattern.Regex
import CsvSchema.Pattern.Fold
import CsvSchema.Pattern.Property.Lookup

/-!
# Resolution of pattern expressions

A pattern expression becomes a regular expression: classes and properties are looked up by name, and
flags are applied where they hold, which is from where they are set to the end of the group, also
across the branches of an alternation.  Without the Unicode flag everything is about ASCII, and what
would match a part of a character is refused.
-/

namespace CsvSchema.Pattern

/-- The flags that change what is matched. -/
structure Flags where
  ignoreCase : Bool
  multiLine : Bool
  dotAll : Bool
  unicode : Bool
  crlf : Bool
  deriving Repr, DecidableEq

namespace Flags

/-- The flags at the start of a pattern. -/
def initial (ignoreCase : Bool) : Flags := ⟨ignoreCase, false, false, true, false⟩

/-- The flags after some settings. -/
def set (flags : Flags) (settings : List FlagSetting) : Flags where
  ignoreCase := (settingOf? settings .ignoreCase).getD flags.ignoreCase
  multiLine := (settingOf? settings .multiLine).getD flags.multiLine
  dotAll := (settingOf? settings .dotAll).getD flags.dotAll
  unicode := (settingOf? settings .unicode).getD flags.unicode
  crlf := (settingOf? settings .crlf).getD flags.crlf

end Flags

/-- The characters of the range between two characters. -/
def charsFrom (first last : Char) : CharSet := [⟨first.toNat, last.toNat⟩]

/-- The characters of a named class. -/
def AsciiClass.chars : AsciiClass → CharSet
  | alnum => charsFrom '0' '9' ++ charsFrom 'A' 'Z' ++ charsFrom 'a' 'z'
  | alpha => charsFrom 'A' 'Z' ++ charsFrom 'a' 'z'
  | ascii => charsFrom '\x00' '\x7f'
  | blank => charsFrom '\t' '\t' ++ charsFrom ' ' ' '
  | cntrl => charsFrom '\x00' '\x1f' ++ charsFrom '\x7f' '\x7f'
  | digit => charsFrom '0' '9'
  | graph => charsFrom '!' '~'
  | lower => charsFrom 'a' 'z'
  | print => charsFrom ' ' '~'
  | punct => charsFrom '!' '/' ++ charsFrom ':' '@' ++ charsFrom '[' '\x60' ++ charsFrom '\x7b' '~'
  | space => charsFrom '\t' '\r' ++ charsFrom ' ' ' '
  | upper => charsFrom 'A' 'Z'
  | word => charsFrom '0' '9' ++ charsFrom 'A' 'Z' ++ charsFrom '_' '_' ++ charsFrom 'a' 'z'
  | xdigit => charsFrom '0' '9' ++ charsFrom 'A' 'F' ++ charsFrom 'a' 'f'

/-- The ASCII characters of a class with a letter of its own. -/
def ShortClass.asciiChars : ShortClass → CharSet
  | digit => AsciiClass.digit.chars
  | space => AsciiClass.space.chars
  | word => AsciiClass.word.chars

/-- The characters of a class with a letter of its own. -/
def ShortClass.chars : ShortClass → CharSet
  | digit => digitChars
  | space => spaceChars
  | word => wordChars

namespace Flags

/-- The counterparts of a set's characters are added if letter case is ignored. -/
def fold (flags : Flags) (set : CharSet) : CharSet :=
  if flags.ignoreCase then if flags.unicode then set.fold else set.foldAscii else set

/-- Negate a set.  Without the Unicode flag the rest would not be ASCII. -/
def negate? (flags : Flags) (negated : Bool) (set : CharSet) : Option CharSet :=
  if negated then if flags.unicode then some set.negate else none else some set

/-- A character as a member of a class. -/
def member? (flags : Flags) (l : Literal) : Option Char :=
  if flags.unicode || l.char.toNat ≤ 0x7F then some l.char else none

/-- The characters of a short class. -/
def shortChars? (flags : Flags) (negated : Bool) (cls : ShortClass) : Option CharSet :=
  flags.negate? negated (if flags.unicode then cls.chars else cls.asciiChars)

/-- The characters with a property. -/
def propertyChars? (flags : Flags) (negated : Bool) (query : PropertyQuery) : Option CharSet :=
  if flags.unicode then query.chars?.bind fun set => flags.negate? negated (flags.fold set)
  else none

/-- An expression for one character. -/
def literal? (flags : Flags) (l : Literal) : Option Regex :=
  if !flags.unicode && l.byteForm && 0x7F < l.char.toNat then none
  else some (.chars (flags.fold (.single l.char)))

/-- An expression for any character that the flags admit. -/
def dot? (flags : Flags) : Option Regex :=
  if !flags.unicode then none
  else if flags.dotAll then some (.chars [⟨0, maxCode⟩])
  else if flags.crlf then
    some (.chars (CharSet.negate (charsFrom '\n' '\n' ++ charsFrom '\r' '\r')))
  else some (.chars (CharSet.negate (charsFrom '\n' '\n')))

/-- The characters that words are made of. -/
def wordSet (flags : Flags) : CharSet :=
  if flags.unicode then wordChars else AsciiClass.word.chars

/-- The place that an assertion tests. -/
def place (flags : Flags) : Assertion → Place
  | .lineStart => if flags.multiLine then .lineStart flags.crlf else .textStart
  | .lineEnd => if flags.multiLine then .lineEnd flags.crlf else .textEnd
  | .textStart => .textStart
  | .textEnd => .textEnd
  | .wordBoundary => .word .boundary flags.wordSet
  | .notWordBoundary => .word .notBoundary flags.wordSet
  | .wordStart => .word .start flags.wordSet
  | .wordEnd => .word .finish flags.wordSet
  | .wordStartHalf => .word .startHalf flags.wordSet
  | .wordEndHalf => .word .finishHalf flags.wordSet

end Flags

/-- The regular expression of an atom. -/
def Atom.regex? (flags : Flags) : Atom → Option Regex
  | literal l => flags.literal? l
  | dot => flags.dot?
  | assertion a => some (.place (flags.place a))
  | short negated cls => (flags.shortChars? negated cls).map .chars
  | property negated query => (flags.propertyChars? negated query).map .chars

/-- The result of an operation on two sets. -/
def SetOperation.apply : SetOperation → CharSet → CharSet → CharSet
  | intersection => CharSet.intersect
  | difference => CharSet.difference
  | symmetricDifference => CharSet.symmetricDifference

mutual

/-- The characters of a set in a class.  Letter case is folded before a set is negated
and before two sets are combined. -/
def ClassSet.chars? (flags : Flags) : ClassSet → Option CharSet
  | empty => some []
  | literal l => (flags.member? l).map .single
  | range first last =>
      match flags.member? first, flags.member? last with
      | some first, some last => some (charsFrom first last)
      | _, _ => none
  | ascii negated cls => flags.negate? negated (flags.fold cls.chars)
  | short negated cls => flags.shortChars? negated cls
  | property negated query => flags.propertyChars? negated query
  | bracketed negated set =>
      (set.chars? flags).bind fun chars => flags.negate? negated (flags.fold chars)
  | union items => ClassSet.unionChars? flags items
  | operation op left right =>
      match left.chars? flags, right.chars? flags with
      | some left, some right => some (op.apply (flags.fold left) (flags.fold right))
      | _, _ => none

/-- The characters of some sets in a class together. -/
def ClassSet.unionChars? (flags : Flags) : List ClassSet → Option CharSet
  | [] => some []
  | set :: rest =>
      match set.chars? flags, ClassSet.unionChars? flags rest with
      | some chars, some others => some (.union chars others)
      | _, _ => none

end

mutual

/-- The regular expression of an expression where some flags hold, and the flags that
hold after it. -/
def Expression.regex? (flags : Flags) : Expression → Option (Regex × Flags)
  | .empty => some (.empty, flags)
  | .flags settings => some (.empty, Flags.set flags settings)
  | .atom a => (a.regex? flags).map (·, flags)
  | .bracketed negated set =>
      ((ClassSet.bracketed negated set).chars? flags).map (.chars ·, flags)
  | .repeated count body => (body.regex? flags).map fun r => (.repeated count r.1, r.2)
  | .group captures settings body =>
      (body.regex? (Flags.set flags settings)).map fun r => (.group captures r.1, flags)
  | .alternation branches =>
      (Expression.regexes? flags branches).map fun r => (.choice r.1, r.2)
  | .sequence items => (Expression.regexes? flags items).map fun r => (.sequence r.1, r.2)

/-- The regular expressions of expressions that stand one after another. -/
def Expression.regexes? (flags : Flags) : List Expression → Option (List Regex × Flags)
  | [] => some ([], flags)
  | e :: rest =>
      (e.regex? flags).bind fun r =>
        (Expression.regexes? r.2 rest).map fun others => (r.1 :: others.1, others.2)

end

end CsvSchema.Pattern
