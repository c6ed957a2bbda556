import CsvSchema.Pattern.Reader.Escape
import CsvSchema.Text.Letter

/-!
# Groups and counts in patterns

What may follow an opening parenthesis, and what may stand between the braces of a count.  A
group that only sets flags is not a group: its flags hold for the rest of the group around it.
There are no tests of what lies ahead or behind.
-/

namespace CsvSchema.Pattern

open Text (isBlank isAlphabetic isAlphanumeric dropStart?)

/-- The flag of a letter. -/
def Flag.ofLetter? : Char → Option Flag
  | 'i' => some .ignoreCase
  | 'm' => some .multiLine
  | 's' => some .dotAll
  | 'U' => some .swapGreed
  | 'u' => some .unicode
  | 'R' => some .crlf
  | 'x' => some .ignoreBlanks
  | _ => none

/-- Flags up to a colon or a closing parenthesis: what they set, the character that
ends them, and the rest after it.  A flag may come once only, and so may the minus
sign, which must not come last. -/
def readFlags? (negated dangling : Bool) (settings : List FlagSetting) :
    List Char → Option (List FlagSetting × Char × List Char)
  | [] => none
  | c :: rest =>
      if c == ':' || c == ')' then
        if dangling then none else some (settings, c, rest)
      else if c == '-' then
        if negated then none else readFlags? true true settings rest
      else
        match Flag.ofLetter? c with
        | none => none
        | some flag =>
            if settings.any (·.flag == flag) then none
            else readFlags? negated false (settings ++ [⟨flag, !negated⟩]) rest

/-- Whether a character may stand in the name of a group. -/
def isNameChar (first : Bool) (c : Char) : Bool :=
  if first then c == '_' || isAlphabetic c
  else c == '_' || c == '.' || c == '[' || c == ']' || isAlphanumeric c

/-- The name of a group up to its closing bracket, and the rest after it. -/
def readName? (first : Bool) : List Char → Option (List Char × List Char)
  | [] => none
  | c :: rest =>
      if c == '>' then if first then none else some ([], rest)
      else if isNameChar first c then
        (readName? false rest).map fun found => (c :: found.1, found.2)
      else none

/-- What follows an opening parenthesis. -/
inductive GroupStart where
  | settings (settings : List FlagSetting)
  | group (name : Option (List Char)) (captures : Bool) (settings : List FlagSetting)

/-- Whether a group would test what lies ahead or behind. -/
def looksAround (s : List Char) : Bool :=
  ["?=", "?!", "?<=", "?<!"].any fun start => start.toList.isPrefixOf s

/-- The start of a group, after its opening parenthesis. -/
def readGroupStart? (ignoring : Bool) (s : List Char) : Option (GroupStart × List Char) :=
  let s := skip ignoring s
  if looksAround s then none
  else
    match (dropStart? "?P<".toList s).orElse fun _ => dropStart? "?<".toList s with
    | some rest => (readName? true rest).map fun (name, rest) => (.group (some name) true [], rest)
    | none =>
        match s with
        | '?' :: rest =>
            (readFlags? false false [] rest).bind fun (settings, stop, rest) =>
              if stop == ':' then some (.group none false settings, rest)
              else if settings.isEmpty then none
              else some (.settings settings, rest)
        | _ => some (.group none true [], s)

/-- A number in a count, with blanks around it. -/
def readCountNumber? (ignoring : Bool) (s : List Char) : Option Nat × List Char :=
  let (digits, rest) := readWhile Decimal.isDigit ignoring false (s.dropWhile isBlank)
  let number :=
    if digits.isEmpty || Decimal.maxWord32 < Decimal.digitsValue digits then none
    else some (Decimal.digitsValue digits)
  (number, skip ignoring (rest.dropWhile isBlank))

/-- A count, after its opening brace. -/
def readCount? (ignoring : Bool) (s : List Char) : Option (Count × List Char) :=
  let (min, rest) := readCountNumber? ignoring (skip ignoring s)
  min.bind fun min =>
    match rest with
    | '\x7d' :: rest => some (⟨min, some min⟩, rest)
    | ',' :: rest =>
        match skip ignoring rest with
        | '\x7d' :: rest => some (⟨min, none⟩, rest)
        | rest =>
            let (max, rest) := readCountNumber? ignoring rest
            max.bind fun max =>
              match rest with
              | '\x7d' :: rest => if min ≤ max then some (⟨min, some max⟩, rest) else none
              | _ => none
    | _ => none

end CsvSchema.Pattern
