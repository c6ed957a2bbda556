import CsvSchema.Pattern.Regex

/-!
# Simplification of regular expressions

Before a machine is built, an expression is put into a simpler form.  Sequences and choices are
flattened, and groups that keep nothing disappear.  A choice between characters, or between sets of
more than one character each, becomes one set; what all branches of a choice start with is put in
front of it; and a repetition of what consumes nothing is done at most once.
-/

namespace CsvSchema.Pattern

/-- How many elements two lists share at the front. -/
def sharedFront {α : Type} [DecidableEq α] : List α → List α → Nat
  | a :: as, b :: bs => if a = b then sharedFront as bs + 1 else 0
  | _, _ => 0

namespace Regex

/-- The expressions that an expression puts one after another. -/
def parts : Regex → List Regex
  | empty => []
  | both first second => first.parts ++ second.parts
  | r => [r]

/-- The expressions that an expression chooses from. -/
def branches : Regex → List Regex
  | either left right => left.branches ++ right.branches
  | r => [r]

/-- The set of an expression for one character from a set. -/
def set? : Regex → Option CharSet
  | chars set => some set
  | _ => none

/-- The code point of an expression for one character. -/
def code? : Regex → Option Nat
  | chars [range] => if range.first = range.last then some range.first else none
  | _ => none

/-- Whether an expression is one character. -/
def isChar (r : Regex) : Bool := r.code?.isSome

/-- The parts of an expression, with characters that stand together as one text. -/
def items (r : Regex) : List (List Regex) := r.parts.splitBy fun a b => a.isChar && b.isChar

/-- Whether an expression keeps a part of what it matches. -/
def captures : Regex → Bool
  | both first second => first.captures || second.captures
  | either left right => left.captures || right.captures
  | repeated _ body => body.captures
  | group captures body => captures || body.captures
  | _ => false

/-- Whether an expression never consumes anything. -/
def consumesNothing : Regex → Bool
  | empty => true
  | chars _ => false
  | place _ => true
  | both first second => first.consumesNothing && second.consumesNothing
  | either left right => left.consumesNothing && right.consumesNothing
  | repeated _ body => body.consumesNothing
  | group _ body => body.consumesNothing

/-- The set of a choice between characters, or between sets of other sizes. -/
def commonSet? (branches : List Regex) : Option CharSet :=
  (branches.mapM set?).bind fun sets =>
    if branches.all isChar || branches.all (!·.isChar) then some (CharSet.normal sets.flatten)
    else none

/-- What all branches of a choice start with, and how each of them goes on.  No two groups that
keep a part are the same.  Whether a repetition is lazy is not known here, so two that differ
in that only count as the same. -/
def commonFront? (branches : List Regex) : Option (List Regex × List Regex) :=
  match branches.map items with
  | [] => none
  | first :: others =>
      let shared := others.foldl (fun front items => front.take (sharedFront front items)) first
      let front := shared.takeWhile fun item => item.all (!·.captures)
      if front.isEmpty || first.length ≤ 1 || others.any (·.length ≤ 1) then none
      else some (front.flatten,
        (first :: others).map fun items => sequence (items.drop front.length).flatten)

/-- A choice between branches that have nothing to put in front. -/
def oneOf (branches : List Regex) : Regex :=
  match commonSet? branches with
  | some set => chars set
  | none => choice branches

/-- A choice between simple expressions. -/
def simpleChoice : List Regex → Regex
  | [r] => r
  | rs =>
      let all := rs.flatMap branches
      match commonFront? all with
      | some (front, rests) => sequence (front ++ (oneOf (rests.flatMap branches)).parts)
      | none => oneOf all

/-- A repetition of a simple expression. -/
def simpleRepetition (count : Count) (body : Regex) : Regex :=
  let count : Count :=
    if body.consumesNothing then ⟨min count.min 1, some (min (count.max.getD 1) 1)⟩ else count
  if count = ⟨0, some 0⟩ then empty
  else if count = ⟨1, some 1⟩ then body
  else repeated count body

/-- The simple forms of the branches of an expression. -/
def simpleBranches : Regex → List Regex
  | empty => [empty]
  | chars set => [chars set]
  | place p => [place p]
  | both first second =>
      [sequence
        ((simpleChoice first.simpleBranches).parts ++ (simpleChoice second.simpleBranches).parts)]
  | either left right => left.simpleBranches ++ right.simpleBranches
  | repeated count body => [simpleRepetition count (simpleChoice body.simpleBranches)]
  | group captures body =>
      let simple := simpleChoice body.simpleBranches
      [if captures then group true simple else simple]

/-- The simple form of an expression. -/
def simplify (r : Regex) : Regex := simpleChoice r.simpleBranches

end Regex

end CsvSchema.Pattern
