import CsvSchema.Run.Evaluation
import CsvSchema.Proofs.Stateful

/-!
# Verdicts

A check holds, or it fails with one complaint.  The verdict on a value depends on the memory of the
run and on what stays the same during the evaluation, but neither on the report nor on the level
that failures are reported at.  `validate_eq_settle` says that checking a value in a session is
finding the verdict and then reporting its complaint, once, at the level of the whole check.
-/

namespace CsvSchema

/-- Why a check fails: the text of the check, which may be a part of the one that was asked for,
the value that it was given, and perhaps a detail. -/
structure Complaint where
  check : String
  value : String
  detail : Option String

/-- The outcome of a check. -/
inductive Verdict where
  | holds
  | fails (complaint : Complaint)

/-- Whether a check holds. -/
def Verdict.isHeld : Verdict → Bool
  | holds => true
  | fails _ => false

/-- The verdict that a finding about a check of a value amounts to. -/
def Finding.verdict (check : Check) (value : String) : Finding → Verdict
  | passed => .holds
  | failed detail => .fails ⟨check.text, value, detail⟩

mutual

/-- The verdict on a value. -/
def Check.evaluate (scope : Scope) : Check → String → StateM Memory Verdict
  | .atom atom, value => return (← atom.evaluate scope value).verdict (.atom atom) value
  | .or checks, value => do
      if ← anyHolds scope checks value then return .holds
      else return .fails ⟨(Check.or checks).text, value, none⟩
  | .and checks, value => evaluateAll scope checks value
  | .parenthesized checks, value => evaluateAll scope checks value
  | .conditional condition clause otherwise, value => do
      if (← condition.evaluate scope value).isHeld then evaluateAll scope clause value
      else evaluateOtherwise scope otherwise value
  | .switch cases otherwise, value => do
      match ← evaluateCases scope cases value with
      | some verdict => return verdict
      | none => evaluateOtherwise scope otherwise value
  | .single none check, value => check.evaluate scope value
  | .single (some column) check, value =>
      match scope.field column with
      | .ok other => check.evaluate scope other
      | .error e => return .fails ⟨(Check.single (some column) check).text, value, some e.message⟩

/-- Whether one of some checks holds. -/
def anyHolds (scope : Scope) : List Check → String → StateM Memory Bool
  | [], _ => return false
  | check :: rest, value => do
      if (← check.evaluate scope value).isHeld then return true
      else anyHolds scope rest value

/-- The verdict on a value that all of some checks have to accept. -/
def evaluateAll (scope : Scope) : List Check → String → StateM Memory Verdict
  | [], _ => return .holds
  | check :: rest, value => do
      match ← check.evaluate scope value with
      | .holds => evaluateAll scope rest value
      | .fails complaint => return .fails complaint

/-- The verdict of a clause that may be missing. -/
def evaluateOtherwise (scope : Scope) : Option (List Check) → String → StateM Memory Verdict
  | none, _ => return .holds
  | some checks, value => evaluateAll scope checks value

/-- The verdict of the first case whose condition holds, if there is one. -/
def evaluateCases (scope : Scope) : List SwitchCase → String → StateM Memory (Option Verdict)
  | [], _ => return none
  | .mk condition clause :: rest, value => do
      if (← condition.evaluate scope value).isHeld then
        return some (← evaluateAll scope clause value)
      else evaluateCases scope rest value

end

namespace Session

/-- A session after the complaint of a verdict was reported at a level, if there is one. -/
def record (session : Session) (level : Option Severity) : Verdict → Session
  | .holds => session
  | .fails complaint =>
      match level with
      | some severity => session.push severity
          (failureText complaint.check complaint.value complaint.detail session.line
            session.column)
      | none => session

/-- What a verdict and the memory after it make of a session. -/
def settle (session : Session) (level : Option Severity) (outcome : Verdict × Memory) :
    Bool × Session :=
  (outcome.1.isHeld, { session with memory := outcome.2 }.record level outcome.1)

@[simp] theorem remembering_apply {α : Type} (action : StateM Memory α) (session : Session) :
    remembering action session =
      ((action session.memory).1, { session with memory := (action session.memory).2 }) := rfl

@[simp] theorem settle_silent (session : Session) (outcome : Verdict × Memory) :
    session.settle none outcome = (outcome.1.isHeld, { session with memory := outcome.2 }) := by
  obtain ⟨_ | complaint, memory⟩ := outcome <;> rfl

/-- Sessions at the same place in two runs report a verdict with the same message. -/
theorem record_related {R : Session → Session → Prop} {session₁ session₂ : Session}
    (hline : session₁.line = session₂.line) (hcolumn : session₁.column = session₂.column)
    (h : R session₁ session₂)
    (hpush : ∀ severity message,
      R (session₁.push severity message) (session₂.push severity message))
    (level : Option Severity) (verdict : Verdict) :
    R (session₁.record level verdict) (session₂.record level verdict) := by
  cases verdict with
  | holds => exact h
  | fails complaint =>
      cases level with
      | none => exact h
      | some severity =>
          simp only [record, hline, hcolumn]
          exact hpush severity _

theorem fail_eq_settle (level : Option Severity) (check : Check) (value : String)
    (detail : Option String) (session : Session) :
    fail level check value detail session =
      session.settle level (.fails ⟨check.text, value, detail⟩, session.memory) := by
  cases level with
  | none => rfl
  | some severity => rfl

variable (environment : Environment) (row : Row) (fold : Bool)

theorem validateAtom_eq_settle (level : Option Severity) (atom : Atom) (value : String)
    (session : Session) :
    validateAtom environment row fold level atom value session =
      session.settle level ((Check.atom atom).evaluate (session.scope environment row fold) value
        session.memory) := by
  simp only [validateAtom, Check.evaluate, Stateful.bind_apply, Stateful.get_apply,
    remembering_apply]
  generalize atom.evaluate _ value session.memory = outcome
  obtain ⟨_ | detail, memory⟩ := outcome
  · rfl
  · exact fail_eq_settle level (.atom atom) value detail _

mutual

/-- Checking a value in a session is finding the verdict on it and reporting the complaint. -/
theorem validate_eq_settle (level : Option Severity) (check : Check) (value : String)
    (session : Session) :
    validate environment row fold level check value session =
      session.settle level
        (check.evaluate (session.scope environment row fold) value session.memory) := by
  -- Parts that are evaluated silently leave nothing but their memory, so the level is passed on to
  -- the parts that report for themselves and to nothing else.
  cases check with
  | atom atom => exact validateAtom_eq_settle environment row fold level atom value session
  | or checks =>
      simp only [validate, Check.evaluate, Stateful.bind_apply, validateAny_eq, remembering_apply]
      generalize anyHolds _ checks value session.memory = outcome
      obtain ⟨_ | _, memory⟩ := outcome
      · exact fail_eq_settle level (.or checks) value none _
      · rfl
  | and checks =>
      simp only [validate, Check.evaluate]
      exact validateAll_eq_settle level checks value session
  | parenthesized checks =>
      simp only [validate, Check.evaluate]
      exact validateAll_eq_settle level checks value session
  | conditional condition clause otherwise =>
      simp only [validate, Check.evaluate, Stateful.bind_apply, validate_eq_settle none condition,
        settle_silent]
      generalize condition.evaluate _ value session.memory = outcome
      obtain ⟨_ | complaint, memory⟩ := outcome
      · exact validateAll_eq_settle level clause value _
      · exact validateOtherwise_eq_settle level otherwise value _
  | switch cases otherwise =>
      simp only [validate, Check.evaluate, Stateful.bind_apply, validateCases_eq_settle]
      generalize evaluateCases _ cases value session.memory = outcome
      obtain ⟨_ | verdict, memory⟩ := outcome
      · exact validateOtherwise_eq_settle level otherwise value _
      · rfl
  | single column check =>
      cases column with
      | none =>
          simp only [validate, Check.evaluate]
          exact validate_eq_settle level check value session
      | some column =>
          -- The value comes from another column, the complaint stays with the owner of the rule.
          simp only [validate, Check.evaluate, scope, Scope.field]
          cases environment.settings.fieldOf row column with
          | ok other => exact validate_eq_settle level check other session
          | error e => exact fail_eq_settle level (.single (some column) check) value _ session

theorem validateAny_eq (checks : List Check) (value : String) (session : Session) :
    validateAny environment row fold checks value session =
      remembering (anyHolds (session.scope environment row fold) checks value) session := by
  cases checks with
  | nil => rfl
  | cons check rest =>
      simp only [validateAny, anyHolds, Stateful.bind_apply, validate_eq_settle none check,
        settle_silent, remembering_apply]
      generalize check.evaluate _ value session.memory = outcome
      obtain ⟨_ | complaint, memory⟩ := outcome
      · rfl
      · exact validateAny_eq rest value _

theorem validateAll_eq_settle (level : Option Severity) (checks : List Check) (value : String)
    (session : Session) :
    validateAll environment row fold level checks value session =
      session.settle level
        (evaluateAll (session.scope environment row fold) checks value session.memory) := by
  cases checks with
  | nil => rfl
  | cons check rest =>
      simp only [validateAll, evaluateAll, Stateful.bind_apply, validate_eq_settle level check]
      generalize check.evaluate _ value session.memory = outcome
      obtain ⟨_ | complaint, memory⟩ := outcome
      · exact validateAll_eq_settle level rest value _
      · rfl

theorem validateOtherwise_eq_settle (level : Option Severity) (otherwise : Option (List Check))
    (value : String) (session : Session) :
    validateOtherwise environment row fold level otherwise value session =
      session.settle level
        (evaluateOtherwise (session.scope environment row fold) otherwise value
          session.memory) := by
  cases otherwise with
  | none => rfl
  | some checks =>
      simp only [validateOtherwise, evaluateOtherwise]
      exact validateAll_eq_settle level checks value session

/-- A case whose condition holds settles the verdict of its clause; otherwise only the memory
changes. -/
theorem validateCases_eq_settle (level : Option Severity) (cases : List SwitchCase)
    (value : String) (session : Session) :
    validateCases environment row fold level cases value session =
      match evaluateCases (session.scope environment row fold) cases value session.memory with
      | (some verdict, memory) =>
          (some verdict.isHeld, (session.settle level (verdict, memory)).2)
      | (none, memory) => (none, { session with memory }) := by
  match cases with
  | [] => rfl
  | .mk condition clause :: rest =>
      simp only [validateCases, evaluateCases, Stateful.bind_apply,
        validate_eq_settle none condition, settle_silent]
      generalize condition.evaluate _ value session.memory = outcome
      obtain ⟨_ | complaint, memory⟩ := outcome
      -- Only the clause of the case that applies reports.
      · simp only [Verdict.isHeld, reduceIte, Stateful.bind_apply,
          validateAll_eq_settle level clause]
        rfl
      · exact validateCases_eq_settle level rest value _

end

/-- An atomic check holds in a session if and only if it finds that the value passes. -/
theorem validate_atom_iff (level : Option Severity) (atom : Atom) (value : String)
    (session : Session) :
    (validate environment row fold level (.atom atom) value session).1 = true ↔
      (atom.evaluate (session.scope environment row fold) value session.memory).1 = .passed := by
  rw [validate_eq_settle, settle, Check.evaluate]
  simp only [Stateful.bind_apply, Stateful.pure_apply]
  cases (atom.evaluate _ value session.memory).1 with
  | passed => exact ⟨fun _ => rfl, fun _ => rfl⟩
  | failed detail => exact ⟨fun h => Bool.noConfusion h, fun h => Finding.noConfusion h⟩

end Session

end CsvSchema
