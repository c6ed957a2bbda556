import Mathlib.Data.List.Forall2
import CsvSchema.Schema.Basic

/-!
# Equality of schemas

Two schemas compare equal if they are built in the same way of equal parts.  Only two kinds of parts
are not compared by what they are made of: patterns are compared by their source, and the bounds of
ranges as numbers, so that zero and negative zero are equal.
-/

namespace CsvSchema

/-- Whether two ranges have equal bounds. -/
structure Bounds.Equal {α : Type} (same : α → α → Prop) (bounds₁ bounds₂ : Bounds α) : Prop where
  lower : Option.Rel same bounds₁.lower bounds₂.lower
  upper : Option.Rel same bounds₁.upper bounds₂.upper

/-- Whether two numbers are numerically equal. -/
def Decimal.Binary64.Equal (x y : Binary64) : Prop := x.toInt = y.toInt

/-- Whether two tests compare equal. -/
def ValueTest.Equal : ValueTest → ValueTest → Prop
  | .regex pattern₁, .regex pattern₂ => pattern₁.source = pattern₂.source
  | .range bounds₁, .range bounds₂ => bounds₁.Equal Decimal.Binary64.Equal bounds₂
  | test₁, test₂ => test₁ = test₂

/-- Whether two atomic checks compare equal. -/
def Atom.Equal : Atom → Atom → Prop
  | .value test₁, .value test₂ => test₁.Equal test₂
  | atom₁, atom₂ => atom₁ = atom₂

mutual

/-- Whether two checks compare equal. -/
def Check.Equal : Check → Check → Prop
  | .atom atom₁, .atom atom₂ => atom₁.Equal atom₂
  | .or checks₁, .or checks₂ => ChecksEqual checks₁ checks₂
  | .and checks₁, .and checks₂ => ChecksEqual checks₁ checks₂
  | .conditional condition₁ clause₁ otherwise₁, .conditional condition₂ clause₂ otherwise₂ =>
      condition₁.Equal condition₂ ∧ ChecksEqual clause₁ clause₂ ∧
        OtherwiseEqual otherwise₁ otherwise₂
  | .switch cases₁ otherwise₁, .switch cases₂ otherwise₂ =>
      CasesEqual cases₁ cases₂ ∧ OtherwiseEqual otherwise₁ otherwise₂
  | .parenthesized checks₁, .parenthesized checks₂ => ChecksEqual checks₁ checks₂
  | .single column₁ check₁, .single column₂ check₂ => column₁ = column₂ ∧ check₁.Equal check₂
  | _, _ => False

/-- Whether two lists of checks compare equal. -/
def ChecksEqual : List Check → List Check → Prop
  | [], [] => True
  | check₁ :: rest₁, check₂ :: rest₂ => check₁.Equal check₂ ∧ ChecksEqual rest₁ rest₂
  | _, _ => False

/-- Whether two clauses that may be missing compare equal. -/
def OtherwiseEqual : Option (List Check) → Option (List Check) → Prop
  | none, none => True
  | some checks₁, some checks₂ => ChecksEqual checks₁ checks₂
  | _, _ => False

/-- Whether two lists of cases compare equal. -/
def CasesEqual : List SwitchCase → List SwitchCase → Prop
  | [], [] => True
  | .mk condition₁ clause₁ :: rest₁, .mk condition₂ clause₂ :: rest₂ =>
      (condition₁.Equal condition₂ ∧ ChecksEqual clause₁ clause₂) ∧ CasesEqual rest₁ rest₂
  | _, _ => False

end

/-- Whether two columns compare equal. -/
structure ColumnDefinition.Equal (column₁ column₂ : ColumnDefinition) : Prop where
  name : column₁.name = column₂.name
  checks : ChecksEqual column₁.rule.checks column₂.rule.checks
  settings : column₁.rule.settings = column₂.rule.settings

/-- Whether two schemas compare equal. -/
structure Schema.Equal (schema₁ schema₂ : Schema) : Prop where
  version : schema₁.version = schema₂.version
  settings : schema₁.settings = schema₂.settings
  columns : List.Forall₂ ColumnDefinition.Equal schema₁.columns schema₂.columns
  slots : schema₁.slots = schema₂.slots

end CsvSchema
