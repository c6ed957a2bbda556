import CsvSchema.Pattern.Reader.Escape

/-!
# Bracketed classes in patterns

A class holds characters, ranges, named classes and further classes side by side, and two such
unions can be intersected or subtracted; operations have one precedence and associate to the left.
A closing bracket that comes first is a character, so no class is written empty.
-/

namespace CsvSchema.Pattern

open Text (isBlank splitFirst?)

/-- The named classes. -/
def AsciiClass.all : List (AsciiClass × String) :=
  [(.alnum, "alnum"), (.alpha, "alpha"), (.ascii, "ascii"), (.blank, "blank"), (.cntrl, "cntrl"),
    (.digit, "digit"), (.graph, "graph"), (.lower, "lower"), (.print, "print"),
    (.punct, "punct"), (.space, "space"), (.upper, "upper"), (.word, "word"),
    (.xdigit, "xdigit")]

/-- The class with a name. -/
def AsciiClass.ofName? (name : List Char) : Option AsciiClass :=
  (AsciiClass.all.find? (·.2.toList == name)).map (·.1)

/-- Take a caret off the front; the flag says whether there was one. -/
def splitCaret : List Char → Bool × List Char
  | '^' :: rest => (true, rest)
  | s => (false, s)

/-- A named class, after its opening bracket. -/
def readAsciiClass? : List Char → Option (ClassSet × List Char)
  | ':' :: rest =>
      let (negated, rest) := splitCaret rest
      match splitFirst? ':' rest with
      | some (name, ']' :: rest) => (AsciiClass.ofName? name).map (.ascii negated ·, rest)
      | _ => none
  | _ => none

/-- A class or an operand that waits for what is being read inside it. -/
inductive ClassFrame where
  /-- A class with the items that stand before it in the class around it. -/
  | opened (before : List ClassSet) (negated : Bool)
  | operand (op : SetOperation) (left : ClassSet)

/-- The start of a class after its bracket: whether it is negated, and the hyphens
or the closing bracket that come first and are characters. -/
def readClassStart (ignoring : Bool) (s : List Char) : Bool × List ClassSet × List Char :=
  let (negated, rest) := splitCaret (skip ignoring s)
  let (hyphens, rest) := readWhile (· == '-') ignoring false rest
  match hyphens, rest with
  | [], ']' :: rest => (negated, [.literal ⟨']', false⟩], rest)
  | _, _ => (negated, hyphens.map fun c => .literal ⟨c, false⟩, rest)

/-- The next character that is neither blank nor the mark of a comment. -/
def peekIgnoring? (comment : Bool) : List Char → Option Char
  | [] => none
  | c :: rest =>
      if isBlank c then peekIgnoring? comment rest
      else if !comment && c == '#' then peekIgnoring? true rest
      else some c

/-- The character that decides whether a hyphen before `s` makes a range. -/
def peek? (ignoring : Bool) (s : List Char) : Option Char :=
  if ignoring then (peekIgnoring? false s).orElse fun _ => s.head? else s.head?

/-- One end of a range, or an item by itself. -/
def readClassAtom? (ignoring : Bool) : List Char → Option (Atom × List Char)
  | [] => none
  | '\\' :: rest => readEscape? ignoring rest
  | c :: rest => some (.literal ⟨c, false⟩, rest)

/-- An atom as an item of a class, where tests of a place have no meaning. -/
def Atom.classSet? : Atom → Option ClassSet
  | literal l => some (.literal l)
  | short negated cls => some (.short negated cls)
  | property negated query => some (.property negated query)
  | _ => none

/-- The range between two atoms, which have to be characters in order. -/
def rangeOf? : Atom → Atom → Option ClassSet
  | .literal first, .literal last =>
      if first.char.toNat ≤ last.char.toNat then some (.range first last) else none
  | _, _ => none

/-- A range or a single item. -/
def readClassItem? (ignoring : Bool) (s : List Char) : Option (ClassSet × List Char) :=
  (readClassAtom? ignoring s).bind fun (first, rest) =>
    match skip ignoring rest with
    | [] => none
    | '-' :: rest =>
        let next := peek? ignoring rest
        if next == some ']' || next == some '-' then first.classSet?.map (·, '-' :: rest)
        else
          (readClassAtom? ignoring (skip ignoring rest)).bind fun (last, rest) =>
            (rangeOf? first last).map (·, rest)
    | rest => first.classSet?.map (·, rest)

/-- Finish the operation that waits for `right`, if there is one. -/
def popOperand (right : ClassSet) : List ClassFrame → ClassSet × List ClassFrame
  | .operand op left :: stack => (.operation op left right, stack)
  | stack => (right, stack)

/-- The operation at the front of a text, and the rest after it. -/
def readOperation? : List Char → Option (SetOperation × List Char)
  | '&' :: '&' :: rest => some (.intersection, rest)
  | '-' :: '-' :: rest => some (.difference, rest)
  | '~' :: '~' :: rest => some (.symmetricDifference, rest)
  | _ => none

/-- The rest of a class: `items` has been read, last first, inside the frames of
`stack`.  Every round consumes a character, so `fuel` need not exceed the length. -/
def readClassFrom? (ignoring : Bool) :
    Nat → List ClassSet → List ClassFrame → List Char → Option (Bool × ClassSet × List Char)
  | 0, _, _, _ => none
  | fuel + 1, items, stack, s =>
      match skip ignoring s with
      | [] => none
      | '[' :: rest =>
          match readAsciiClass? rest with
          | some (set, rest) => readClassFrom? ignoring fuel (set :: items) stack rest
          | none =>
              let (negated, start, rest) := readClassStart ignoring rest
              readClassFrom? ignoring fuel start.reverse (.opened items negated :: stack) rest
      | ']' :: rest =>
          let (set, stack) := popOperand (.ofUnion items.reverse) stack
          match stack with
          | [.opened _ negated] => some (negated, set, rest)
          | .opened before negated :: stack =>
              readClassFrom? ignoring fuel (.bracketed negated set :: before) stack rest
          | _ => none
      | s =>
          match readOperation? s with
          | some (op, rest) =>
              let (left, stack) := popOperand (.ofUnion items.reverse) stack
              readClassFrom? ignoring fuel [] (.operand op left :: stack) rest
          | none =>
              (readClassItem? ignoring s).bind fun (item, rest) =>
                readClassFrom? ignoring fuel (item :: items) stack rest

/-- A class, after its opening bracket. -/
def readClass? (ignoring : Bool) (s : List Char) : Option (Expression × List Char) :=
  let (negated, start, rest) := readClassStart ignoring s
  (readClassFrom? ignoring (rest.length + 1) start.reverse [.opened [] negated] rest).map
    fun (negated, set, rest) => (.bracketed negated set, rest)

end CsvSchema.Pattern
