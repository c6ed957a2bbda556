import CsvSchema.Reduction.Fault
import CsvSchema.Text.Token

/-!
# Arguments

What a node is made of is read off its parts: each reader accepts one kind of part and says what it
expected of any other.
-/

namespace CsvSchema

namespace Part

/-- A raw token. -/
def asToken : Part → Except Fault String
  | .token text => .ok text
  | part => .error (.unexpected .token part.kind)

/-- An operand, where a token stands for a literal. -/
def asOperand : Part → Except Fault Operand
  | .operand x => .ok x
  | .token text => .ok (.literal (Text.literalText text))
  | part => .error (.unexpected .operand part.kind)

/-- The name in a reference to a column. -/
def asReference : Part → Except Fault String
  | .operand (.column name) => .ok name
  | part => .error (.unexpected .columnReference part.kind)

/-- A check. -/
def asCheck : Part → Except Fault Check
  | .check x => .ok x
  | part => .error (.unexpected .check part.kind)

/-- The checks of a clause, where one check stands for a clause of its own. -/
def asClause : Part → Except Fault (List Check)
  | .clause checks => .ok checks
  | .check x => .ok [x]
  | part => .error (.unexpected .clause part.kind)

/-- The definition of a column. -/
def asColumn : Part → Except Fault ColumnDefinition
  | .column x => .ok x
  | part => .error (.unexpected .columnDefinition part.kind)

/-- The rule of a column. -/
def asRule : Part → Except Fault ColumnRule
  | .rule x => .ok x
  | part => .error (.unexpected .columnRule part.kind)

/-- A directive for a column. -/
def asColumnDirective : Part → Except Fault ColumnDirective
  | .columnDirective directive => .ok directive
  | part => .error (.unexpected .columnDirective part.kind)

/-- A directive for the whole file. -/
def asSetting : Part → Except Fault GlobalSetting
  | .setting x => .ok x
  | part => .error (.unexpected .globalDirective part.kind)

/-- The version and the settings at the head of a schema. -/
def asProlog : Part → Except Fault (Version × FileSettings)
  | .prolog version global => .ok (version, global)
  | part => .error (.unexpected .prolog part.kind)

/-- The columns of a schema and the number of their slots. -/
def asBody : Part → Except Fault (List ColumnDefinition × Nat)
  | .body columns slots => .ok (columns, slots)
  | part => .error (.unexpected .body part.kind)

/-- A schema. -/
def asSchema : Part → Except Fault Schema
  | .schema x => .ok x
  | part => .error (.unexpected .schema part.kind)

end Part

/-- The fault of a node that is made of a wrong number of parts. -/
def wrongCount {α : Type} (allowed : List Nat) (parts : List Part) : Except Fault α :=
  .error (.wrongCount allowed parts.length)

/-- Nothing may follow the parts of a node. -/
def refuseRest : List Part → Except Fault Unit
  | [] => .ok ()
  | part :: _ => .error (.leftOver part.kind)

/-- A bound from its token: an asterisk leaves it open. -/
def readBound {α : Type} (rule : String) (read : String → Option α) (raw : String) :
    Except Fault (Option α) :=
  if Text.literalText raw = "*" then .ok none
  else
    match read (Text.literalText raw) with
    | some bound => .ok (some bound)
    | none => .error (.badBound rule raw)

/-- The kind of value that two bounds are made of. -/
structure BoundForm (α : Type) where
  /-- What a bound is called in diagnostics. -/
  rule : String
  read : String → Option α
  print : α → String

/-- Two bounds from their tokens.  The lower one must not be above the upper one. -/
def readBounds {α : Type} [LE α] [DecidableLE α] (form : BoundForm α) (lower upper : Part) :
    Except Fault (Bounds α) := do
  let lower ← readBound form.rule form.read (← lower.asToken)
  let upper ← readBound form.rule form.read (← upper.asToken)
  match lower, upper with
  | some low, some high =>
      if low ≤ high then return ⟨lower, upper⟩
      else throw (.crossedBounds form.rule (form.print low) (form.print high))
  | _, _ => return ⟨lower, upper⟩

end CsvSchema
