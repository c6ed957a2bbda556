import CsvSchema.Pattern.Regex

/-!
# Matching

An expression leads from the places of a text where it may start to those where it may end.  Sets
of places are lists with one flag for each place, and places are known by their neighbours.
Repetition follows these steps until nothing new is reached; since places only move towards the
end, there is no need for more steps than there are places.
-/

namespace CsvSchema.Pattern

/-- A place between two characters, by its neighbours. -/
structure Edge where
  before : Option Char
  after : Option Char
  deriving Repr, DecidableEq

/-- The places of a text after a given character, in order. -/
def edgesAfter (before : Option Char) : List Char → List Edge
  | [] => [⟨before, none⟩]
  | c :: rest => ⟨before, some c⟩ :: edgesAfter (some c) rest

/-- The places of a text, in order. -/
def edgesOf (text : List Char) : List Edge := edgesAfter none text

/-- The places in one of two sets. -/
def joinMarks (a b : List Bool) : List Bool := List.zipWith or a b

/-- Apply a step `n` times, as long as it changes anything. -/
def stepTimes (step : List Bool → List Bool) : Nat → List Bool → List Bool
  | 0, marks => marks
  | n + 1, marks =>
      let next := step marks
      if next = marks then marks else stepTimes step n next

namespace Regex

/-- The places where an expression may end if it starts at one of the marked places. -/
def reach (edges : List Edge) : Regex → List Bool → List Bool
  | empty, marks => marks
  | chars set, marks =>
      (false :: List.zipWith (fun mark edge => mark && isIn set edge.after) marks edges).take
        edges.length
  | place p, marks =>
      List.zipWith (fun mark edge => mark && p.holds edge.before edge.after) marks edges
  | both first second, marks => second.reach edges (first.reach edges marks)
  | either left right, marks => joinMarks (left.reach edges marks) (right.reach edges marks)
  | repeated count body, marks =>
      let atLeast := stepTimes (body.reach edges) count.min marks
      let extra := match count.max with
        | some max => max - count.min
        | none => edges.length
      stepTimes (fun marks => joinMarks marks (body.reach edges marks)) extra atLeast
  | group _ body, marks => body.reach edges marks

/-- Whether an expression matches some part of a text. -/
def isFoundIn (r : Regex) (text : List Char) : Bool :=
  let edges := edgesOf text
  (r.reach edges (edges.map fun _ => true)).any id

end Regex

end CsvSchema.Pattern
