import CsvSchema.Pattern.Reader.Class
import CsvSchema.Pattern.Reader.Group

/-!
# Reading patterns

The reader goes through the text once and keeps a stack of what is open: groups, with what stands
before them, and alternations, with the branches so far.  The flag that ignores blanks is the one
that concerns reading itself; a group restores it at its end.  What cannot be read is refused,
whatever the reason.
-/

namespace CsvSchema.Pattern

/-- A group or an alternation that is open. -/
inductive OpenFrame where
  /-- A group, with what stands before it, last first, and the way blanks were treated there. -/
  | group (before : List Expression) (captures : Bool) (settings : List FlagSetting)
      (ignoring : Bool)
  /-- The branches of an alternation before the one being read, last first. -/
  | branches (done : List Expression)

/-- The state of reading between two pieces of a pattern. -/
structure ReadState where
  ignoring : Bool
  /-- The pieces of the branch being read, last first. -/
  items : List Expression
  stack : List OpenFrame
  names : List (List Char)

namespace ReadState

/-- Nothing has been read. -/
def start : ReadState := ⟨false, [], [], []⟩

/-- The branch being read. -/
def branch (state : ReadState) : Expression := .ofSequence state.items.reverse

/-- Add a piece. -/
def push (state : ReadState) (e : Expression) : ReadState :=
  { state with items := e :: state.items }

/-- Begin another branch. -/
def nextBranch (state : ReadState) : ReadState :=
  match state.stack with
  | .branches done :: stack =>
      { state with items := [], stack := .branches (state.branch :: done) :: stack }
  | stack => { state with items := [], stack := .branches [state.branch] :: stack }

/-- The alternation of the branches since the last group was opened, and the frames
outside of it. -/
def popBranches (state : ReadState) : Expression × List OpenFrame :=
  match state.stack with
  | .branches done :: stack => (.alternation (state.branch :: done).reverse, stack)
  | stack => (state.branch, stack)

/-- Open a group, or set flags from here on. -/
def openGroup? (state : ReadState) : GroupStart → Option ReadState
  | .settings settings =>
      some { state.push (.flags settings) with
        ignoring := (settingOf? settings .ignoreBlanks).getD state.ignoring }
  | .group name captures settings =>
      let names := name.toList
      if names.any state.names.contains then none
      else
        some ⟨(settingOf? settings .ignoreBlanks).getD state.ignoring, [],
          .group state.items captures settings state.ignoring :: state.stack,
          names ++ state.names⟩

/-- Close the group that was opened last. -/
def closeGroup? (state : ReadState) : Option ReadState :=
  match state.popBranches with
  | (body, .group before captures settings ignoring :: stack) =>
      some ⟨ignoring, .group captures settings body :: before, stack, state.names⟩
  | _ => none

/-- Repeat the last piece.  There must be one, and flags cannot be repeated. -/
def repeatLast? (state : ReadState) (count : Count) : Option ReadState :=
  match state.items with
  | [] => none
  | .flags _ :: _ => none
  | e :: before => some { state with items := .repeated count e :: before }

/-- The whole pattern, if no group is left open. -/
def finish? (state : ReadState) : Option Expression :=
  match state.popBranches with
  | (e, []) => some e
  | _ => none

end ReadState

/-- A question mark after a repetition only changes which match is preferred. -/
def dropLazyMark : List Char → List Char
  | '?' :: rest => rest
  | s => s

/-- The atom at the front of a text. -/
def readAtom? (ignoring : Bool) (c : Char) (rest : List Char) : Option (Atom × List Char) :=
  match c with
  | '\\' => readEscape? ignoring rest
  | '.' => some (.dot, rest)
  | '^' => some (.assertion .lineStart, rest)
  | '$' => some (.assertion .lineEnd, rest)
  | c => some (.literal ⟨c, false⟩, rest)

/-- One step of reading, which consumes the character `c` at least. -/
def readStep? (state : ReadState) (c : Char) (rest : List Char) : Option (ReadState × List Char) :=
  let ignoring := state.ignoring
  match c with
  | '(' =>
      (readGroupStart? ignoring rest).bind fun (start, rest) =>
        (state.openGroup? start).map (·, rest)
  | ')' => state.closeGroup?.map (·, rest)
  | '|' => some (state.nextBranch, rest)
  | '[' => (readClass? ignoring rest).map fun (e, rest) => (state.push e, rest)
  | '?' => (state.repeatLast? ⟨0, some 1⟩).map (·, dropLazyMark rest)
  | '*' => (state.repeatLast? ⟨0, none⟩).map (·, dropLazyMark rest)
  | '+' => (state.repeatLast? ⟨1, none⟩).map (·, dropLazyMark rest)
  | '\x7b' =>
      (readCount? ignoring rest).bind fun (count, rest) =>
        (state.repeatLast? count).map (·, dropLazyMark (skip ignoring rest))
  | c => (readAtom? ignoring c rest).map fun (atom, rest) => (state.push (.atom atom), rest)

/-- Read to the end.  Every step consumes a character, so `fuel` need not exceed the
length. -/
def readFrom? : Nat → ReadState → List Char → Option Expression
  | 0, _, _ => none
  | fuel + 1, state, s =>
      match skip state.ignoring s with
      | [] => state.finish?
      | c :: rest => (readStep? state c rest).bind fun (state, rest) => readFrom? fuel state rest

/-- The expression that a pattern writes. -/
def read? (s : List Char) : Option Expression :=
  (readFrom? (s.length + 1) .start s).bind fun e =>
    if e.height ≤ maxNesting then some e else none

end CsvSchema.Pattern
