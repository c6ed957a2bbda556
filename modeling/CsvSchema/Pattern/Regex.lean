import CsvSchema.Pattern.CharSet
import CsvSchema.Pattern.Expression

/-!
# Regular expressions

What a pattern matches, with flags applied and names looked up: single characters from sets, tests
of a place between two characters, and the usual operations.
-/

namespace CsvSchema.Pattern

/-- A test of words around a place. -/
inductive WordTest where
  | boundary
  | notBoundary
  | start
  | finish
  | startHalf
  | finishHalf
  deriving Repr, DecidableEq

/-- A test of the place between two characters. -/
inductive Place where
  | textStart
  | textEnd
  /-- The start of a line, where lines end with a line feed or with either line break. -/
  | lineStart (crlf : Bool)
  | lineEnd (crlf : Bool)
  /-- A test of words that are made of the characters of a set. -/
  | word (test : WordTest) (chars : CharSet)
  deriving Repr, DecidableEq

/-- A regular expression. -/
inductive Regex where
  | empty
  | chars (set : CharSet)
  | place (place : Place)
  | both (first second : Regex)
  | either (left right : Regex)
  | repeated (count : Count) (body : Regex)
  /-- A group, which may keep what it matches. -/
  | group (captures : Bool) (body : Regex)
  deriving Repr, DecidableEq

/-- Whether an optional character is in a set. -/
def isIn (set : CharSet) : Option Char → Bool
  | some c => set.holds c
  | none => false

/-- Whether a test of words holds between a word character or not and a word character
or not. -/
def WordTest.holds (before after : Bool) : WordTest → Bool
  | boundary => before != after
  | notBoundary => before == after
  | start => !before && after
  | finish => before && !after
  | startHalf => !before
  | finishHalf => !after

/-- Whether a test holds between two neighbours, where there is none at the ends. -/
def Place.holds (before after : Option Char) : Place → Bool
  | textStart => before.isNone
  | textEnd => after.isNone
  | lineStart false => before.isNone || before == some '\n'
  | lineEnd false => after.isNone || after == some '\n'
  | lineStart true =>
      before.isNone || before == some '\n' || (before == some '\r' && after != some '\n')
  | lineEnd true =>
      after.isNone || after == some '\r' || (after == some '\n' && before != some '\r')
  | word test chars => test.holds (isIn chars before) (isIn chars after)

/-- Expressions one after another. -/
def Regex.sequence : List Regex → Regex
  | [] => .empty
  | [r] => r
  | r :: rest => .both r (Regex.sequence rest)

/-- A choice between expressions. -/
def Regex.choice : List Regex → Regex
  | [] => .empty
  | [r] => r
  | r :: rest => .either r (Regex.choice rest)

end CsvSchema.Pattern
