/-!
# Pattern expressions

What the text of a pattern says, before flags are applied and names are looked up.  Flags are
expressions of their own, because they hold from where they stand to the end of the group.
-/

namespace CsvSchema.Pattern

/-- A flag of a pattern. -/
inductive Flag where
  | ignoreCase
  | multiLine
  | dotAll
  | swapGreed
  | unicode
  | crlf
  | ignoreBlanks
  deriving Repr, DecidableEq

/-- A flag that is switched on or off. -/
structure FlagSetting where
  flag : Flag
  on : Bool
  deriving Repr, DecidableEq

/-- What a flag is switched to, if the settings name it. -/
def settingOf? (settings : List FlagSetting) (flag : Flag) : Option Bool :=
  (settings.find? (·.flag == flag)).map (·.on)

/-- One character of a pattern.  Two hexadecimal digits can also stand for a byte. -/
structure Literal where
  char : Char
  byteForm : Bool
  deriving Repr, DecidableEq

/-- A class of characters with a letter of its own. -/
inductive ShortClass where
  | digit
  | space
  | word
  deriving Repr, DecidableEq

/-- A named class of ASCII characters. -/
inductive AsciiClass where
  | alnum
  | alpha
  | ascii
  | blank
  | cntrl
  | digit
  | graph
  | lower
  | print
  | punct
  | space
  | upper
  | word
  | xdigit
  deriving Repr, DecidableEq

/-- How a character property is asked for. -/
inductive PropertyQuery where
  | named (name : List Char)
  | valued (name value : List Char)
  deriving Repr, DecidableEq

/-- A test of the place between two characters. -/
inductive Assertion where
  | lineStart
  | lineEnd
  | textStart
  | textEnd
  | wordBoundary
  | notWordBoundary
  | wordStart
  | wordEnd
  | wordStartHalf
  | wordEndHalf
  deriving Repr, DecidableEq

/-- An operation on two sets of a class. -/
inductive SetOperation where
  | intersection
  | difference
  | symmetricDifference
  deriving Repr, DecidableEq

/-- A piece of a pattern that is written without inner structure. -/
inductive Atom where
  | literal (literal : Literal)
  | dot
  | assertion (assertion : Assertion)
  | short (negated : Bool) (cls : ShortClass)
  | property (negated : Bool) (query : PropertyQuery)
  deriving Repr, DecidableEq

/-- The set in a bracketed class. -/
inductive ClassSet where
  | empty
  | literal (literal : Literal)
  | range (first last : Literal)
  | ascii (negated : Bool) (cls : AsciiClass)
  | short (negated : Bool) (cls : ShortClass)
  | property (negated : Bool) (query : PropertyQuery)
  | bracketed (negated : Bool) (set : ClassSet)
  | union (items : List ClassSet)
  | operation (op : SetOperation) (left right : ClassSet)

/-- How often an expression is repeated: at least `min` times, and at most `max`
times if that is given. -/
structure Count where
  min : Nat
  max : Option Nat
  deriving Repr, DecidableEq

/-- A pattern expression. -/
inductive Expression where
  | empty
  | flags (settings : List FlagSetting)
  | atom (atom : Atom)
  | bracketed (negated : Bool) (set : ClassSet)
  | repeated (count : Count) (body : Expression)
  | group (captures : Bool) (settings : List FlagSetting) (body : Expression)
  | alternation (branches : List Expression)
  | sequence (items : List Expression)

mutual

/-- How deeply the sets of a class are nested. -/
def ClassSet.height : ClassSet → Nat
  | bracketed _ set => set.height + 1
  | union items => ClassSet.heightOfAll items + 1
  | operation _ left right => max left.height right.height + 1
  | _ => 0

/-- The height of the highest of some sets. -/
def ClassSet.heightOfAll : List ClassSet → Nat
  | [] => 0
  | set :: rest => max set.height (ClassSet.heightOfAll rest)

end

mutual

/-- How deeply an expression is nested. -/
def Expression.height : Expression → Nat
  | bracketed _ set => set.height + 1
  | repeated _ body => body.height + 1
  | group _ _ body => body.height + 1
  | alternation branches => Expression.heightOfAll branches + 1
  | sequence items => Expression.heightOfAll items + 1
  | _ => 0

/-- The height of the highest of some expressions. -/
def Expression.heightOfAll : List Expression → Nat
  | [] => 0
  | e :: rest => max e.height (Expression.heightOfAll rest)

end

/-- Expressions nested deeper than this are refused. -/
def maxNesting : Nat := 250

/-- Expressions one after another. -/
def Expression.ofSequence : List Expression → Expression
  | [] => .empty
  | [e] => e
  | items => .sequence items

/-- Sets side by side. -/
def ClassSet.ofUnion : List ClassSet → ClassSet
  | [] => .empty
  | [set] => set
  | items => .union items

end CsvSchema.Pattern
