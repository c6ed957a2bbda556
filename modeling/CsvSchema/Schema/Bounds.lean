import CsvSchema.Text.Split
import CsvSchema.Decimal.Natural

/-!
# Bounds

Many rules take a lower and an upper bound.  Both belong to the range, and either may be open,
which is written as an asterisk.
-/

namespace CsvSchema

/-- A range with bounds that belong to it.  A missing bound is open. -/
structure Bounds (α : Type) where
  lower : Option α
  upper : Option α
  deriving Repr, DecidableEq

namespace Bounds

/-- The range without bounds. -/
def unbounded {α : Type} : Bounds α := ⟨none, none⟩

/-- Whether neither bound is there. -/
def isUnbounded {α : Type} (b : Bounds α) : Bool := b.lower.isNone && b.upper.isNone

/-- Whether a value lies in the range. -/
def holds {α : Type} [LE α] [DecidableLE α] (b : Bounds α) (x : α) : Bool :=
  b.lower.all (fun lower => decide (lower ≤ x)) && b.upper.all fun upper => decide (x ≤ upper)

/-- A bound as it is written. -/
def boundText {α : Type} (print : α → String) : Option α → String
  | some bound => print bound
  | none => "*"

/-- Both bounds as they are written. -/
def text {α : Type} (print : α → String) (b : Bounds α) : String :=
  boundText print b.lower ++ ", " ++ boundText print b.upper

/-- A rule that is written with its bounds only if there are any. -/
def ruleText {α : Type} (name : String) (print : α → String) (b : Bounds α) : String :=
  if b.isUnbounded then name else name ++ "(" ++ b.text print ++ ")"

end Bounds

/-- How long a value may be, in characters. -/
inductive LengthRule where
  | exactly (length : Nat)
  | between (bounds : Bounds Nat)
  deriving Repr, DecidableEq

namespace LengthRule

/-- Whether a length is allowed. -/
def holds : LengthRule → Nat → Bool
  | exactly length, n => n == length
  | between bounds, n => bounds.holds n

/-- What is written between the parentheses of a length rule. -/
def text : LengthRule → String
  | exactly length => Decimal.natText length
  | between bounds => bounds.text Decimal.natText

end LengthRule

end CsvSchema
