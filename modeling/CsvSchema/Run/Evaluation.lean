import CsvSchema.Run.Atomic
import CsvSchema.Run.Session

/-!
# Evaluation of checks

Checks that combine others evaluate them in order and stop as soon as the outcome is known.  A
level says how a failure is reported, and no level means silence: that is how the operands of `or`
and the conditions of `if` and `switch` are evaluated.  Elsewhere the parts of a check report for
themselves.
-/

namespace CsvSchema

namespace Session

/-- Evaluate an atomic check. -/
def validateAtom (environment : Environment) (row : Row) (fold : Bool) (level : Option Severity)
    (atom : Atom) (value : String) : StateM Session Bool := do
  let scope := (← get).scope environment row fold
  match ← remembering (atom.evaluate scope value) with
  | .passed => return true
  | .failed detail => fail level (.atom atom) value detail

mutual

/-- Check a value and report a failure at a level, or silently. -/
def validate (environment : Environment) (row : Row) (fold : Bool) (level : Option Severity) :
    Check → String → StateM Session Bool
  | .atom atom, value => validateAtom environment row fold level atom value
  | .or checks, value => do
      if ← validateAny environment row fold checks value then return true
      else fail level (.or checks) value none
  | .and checks, value => validateAll environment row fold level checks value
  | .parenthesized checks, value => validateAll environment row fold level checks value
  | .conditional condition clause otherwise, value => do
      if ← validate environment row fold none condition value then
        validateAll environment row fold level clause value
      else validateOtherwise environment row fold level otherwise value
  | .switch cases otherwise, value => do
      match ← validateCases environment row fold level cases value with
      | some held => return held
      | none => validateOtherwise environment row fold level otherwise value
  | .single none check, value => validate environment row fold level check value
  | .single (some column) check, value =>
      match environment.settings.fieldOf row column with
      | .ok other => validate environment row fold level check other
      | .error e => fail level (.single (some column) check) value (some e.message)

/-- Whether one of some checks holds.  None of them reports. -/
def validateAny (environment : Environment) (row : Row) (fold : Bool) :
    List Check → String → StateM Session Bool
  | [], _ => return false
  | check :: rest, value => do
      if ← validate environment row fold none check value then return true
      else validateAny environment row fold rest value

/-- Whether all of some checks hold.  The first one that does not reports. -/
def validateAll (environment : Environment) (row : Row) (fold : Bool) (level : Option Severity) :
    List Check → String → StateM Session Bool
  | [], _ => return true
  | check :: rest, value => do
      if ← validate environment row fold level check value then
        validateAll environment row fold level rest value
      else return false

/-- Whether a clause holds that may be missing. -/
def validateOtherwise (environment : Environment) (row : Row) (fold : Bool)
    (level : Option Severity) : Option (List Check) → String → StateM Session Bool
  | none, _ => return true
  | some checks, value => validateAll environment row fold level checks value

/-- Whether the clause of the first case holds whose condition does, if there is one.
Conditions do not report. -/
def validateCases (environment : Environment) (row : Row) (fold : Bool)
    (level : Option Severity) : List SwitchCase → String → StateM Session (Option Bool)
  | [], _ => return none
  | .mk condition clause :: rest, value => do
      if ← validate environment row fold none condition value then
        return some (← validateAll environment row fold level clause value)
      else validateCases environment row fold level rest value

end

end Session

end CsvSchema
