import CsvSchema.Run.Rule
import CsvSchema.Proofs.Evaluation

/-!
# Notes about fields

What the rule of a column has to say about a record depends on the memory of the run, but neither on
the line of the record nor on what was reported before.  `ColumnDefinition.judge` finds it without a
session; `Session.validateRule_eq` says that applying a rule in a session is judging the record and
then writing the notes into the report, at the line of the session.
-/

namespace CsvSchema

open Stateful

/-- A message about a field, before it is settled which line the field is in. -/
structure Note where
  column : String
  severity : Severity
  text : Nat → String

/-- Whether a note leaves the outcome of a run as it is. -/
def Note.isWarning (note : Note) : Bool := note.severity == .warning

namespace Report

/-- A report with notes about one line added to it. -/
def note (report : Report) (line : Nat) (notes : List Note) : Report :=
  notes.foldl
    (fun report note => report.push line note.column note.severity (note.text line)) report

variable (report : Report) (line : Nat)

@[simp] theorem note_nil : report.note line [] = report := rfl

@[simp] theorem note_cons (note : Note) (rest : List Note) :
    report.note line (note :: rest) =
      (report.push line note.column note.severity (note.text line)).note line rest := rfl

theorem note_append (first second : List Note) :
    report.note line (first ++ second) = (report.note line first).note line second :=
  List.foldl_append

end Report

namespace ColumnDefinition

variable (column : ColumnDefinition) (environment : Environment) (row : Row)

/-- What stays the same while the rule of a column is applied to a record. -/
def scope : Scope :=
  ⟨environment, row, environment.options.ignoreCase || column.rule.settings.ignoreCase,
    column.name, column.rule.settings.severity⟩

/-- A note about the field of a column. -/
def note (text : Nat → String) : Note := ⟨column.name, column.rule.settings.severity, text⟩

/-- What a verdict on a value gives to note: usually a complaint, but under the directive that turns
matches into failures that there is none. -/
def verdictNotes (check : Check) (value : String) (verdict : Verdict) : List Note :=
  if column.rule.settings.matchIsFalse then
    if verdict.isHeld then
      [column.note fun line => Session.matchText check line column.name value]
    else []
  else
    match verdict with
    | .holds => []
    | .fails complaint =>
        [column.note fun line => Session.failureText complaint.check complaint.value
          complaint.detail line column.name]

/-- What one check of a rule has to say about a value. -/
def judgeCheck (value : String) (check : Check) : StateM Memory (List Note) :=
  return column.verdictNotes check value
    (← check.evaluate (column.scope environment row) value)

/-- What the rule of a column has to say about a record. -/
def judge : StateM Memory (List Note) :=
  match row.get? (environment.settings.columnKey column.name) with
  | none => return [column.note (Session.missingText column.name)]
  | some value =>
      if column.rule.settings.optional && value.isEmpty then return []
      else
        return (← column.rule.checks.mapM (column.judgeCheck environment row value)).flatten

/-- A note that a column makes is about the column, and as bad as its failures are. -/
def Owns (note : Note) : Prop :=
  note.column = column.name ∧ note.severity = column.rule.settings.severity

variable {column environment row}

theorem owns_verdictNotes {check : Check} {value : String} {verdict : Verdict} {note : Note}
    (h : note ∈ column.verdictNotes check value verdict) : column.Owns note := by
  unfold verdictNotes at h
  split at h
  · split at h
    · rw [List.mem_singleton.1 h]
      exact ⟨rfl, rfl⟩
    · cases h
  · cases verdict with
    | holds => cases h
    | fails complaint =>
        rw [List.mem_singleton.1 h]
        exact ⟨rfl, rfl⟩

theorem owns_of_mem_judge {memory : Memory} {note : Note}
    (h : note ∈ (column.judge environment row memory).1) : column.Owns note := by
  simp only [judge] at h
  cases hfield : row.get? (environment.settings.columnKey column.name) with
  | none =>
      rw [hfield] at h
      rw [List.mem_singleton.1 h]
      exact ⟨rfl, rfl⟩
  | some value =>
      simp only [hfield] at h
      split at h
      · cases h
      · obtain ⟨check, -, middle, hcheck⟩ := exists_of_mem_flatten_mapM h
        exact owns_verdictNotes hcheck

/-- What is true of all checks of a rule and passed on is true of judging by the rule. -/
theorem composes_judge {Q : ∀ {α : Type}, StateM Memory α → Prop} (hQ : Composes @Q)
    (hcheck : ∀ check ∈ column.rule.checks, ∀ value,
      Q (check.evaluate (column.scope environment row) value)) :
    Q (column.judge environment row) := by
  unfold judge
  cases row.get? (environment.settings.columnKey column.name) with
  | none => exact hQ.pure _
  | some value =>
      simp only
      split
      · exact hQ.pure _
      · refine hQ.bind (hQ.mapM fun check hmem => ?_) fun _ => hQ.pure _
        exact hQ.bind (hcheck check hmem value) fun _ => hQ.pure _

end ColumnDefinition

namespace Session

/-- A session in which some notes were found that are about its line. -/
def annotate (session : Session) (found : List Note × Memory) : Session :=
  { session with report := session.report.note session.line found.1, memory := found.2 }

variable {environment : Environment} {row : Row} {column : ColumnDefinition} {session : Session}

/-- Checks of a rule are applied while the session is in the column of the rule. -/
structure IsIn (session : Session) (column : ColumnDefinition) : Prop where
  name : session.column = column.name
  severity : session.severity = column.rule.settings.severity

/-- Inside a column the session has the scope of the column. -/
theorem IsIn.scope_eq (h : session.IsIn column) (environment : Environment) (row : Row) :
    session.scope environment row
        (environment.options.ignoreCase || column.rule.settings.ignoreCase) =
      column.scope environment row := by
  rw [Session.scope, h.name, h.severity]
  rfl

theorem applyCheck_eq (h : session.IsIn column) (value : String) (check : Check) :
    applyCheck environment row column value check session =
      let found := column.judgeCheck environment row value check session.memory
      (found.1.isEmpty, session.annotate found) := by
  have hscope := h.scope_eq environment row
  simp only [applyCheck, ColumnDefinition.judgeCheck, ColumnDefinition.verdictNotes, bind_apply,
    pure_apply]
  cases column.rule.settings.matchIsFalse with
  -- A check that is not to match is asked in silence, and the message is about the match.
  | true =>
      simp only [if_true, bind_apply, validate_eq_settle, settle_silent, hscope]
      generalize check.evaluate _ value session.memory = outcome
      obtain ⟨_ | complaint, memory⟩ := outcome
      · simp only [Verdict.isHeld, if_true, annotate, push, Report.note_cons, Report.note_nil,
          h.name]
        rfl
      · rfl
  | false =>
      simp only [Bool.false_eq_true, if_false, validate_eq_settle, hscope]
      generalize check.evaluate _ value session.memory = outcome
      obtain ⟨_ | complaint, memory⟩ := outcome
      · rfl
      · simp only [settle, record, push, annotate, Report.note_cons, Report.note_nil, h.name]
        rfl

theorem applyChecks_eq (h : session.IsIn column) (value : String) (checks : List Check) :
    applyChecks environment row column value checks session =
      let found := checks.mapM (column.judgeCheck environment row value) session.memory
      (found.1.flatten.isEmpty, session.annotate (found.1.flatten, found.2)) := by
  induction checks generalizing session with
  | nil => rfl
  | cons check rest ih =>
      simp only [applyChecks, bind_apply, pure_apply, applyCheck_eq h, mapM_cons_apply]
      generalize column.judgeCheck environment row value check session.memory = found
      -- The session stays in the column, so the rest is applied to the annotated one.
      have hstays : (session.annotate found).IsIn column := ⟨h.name, h.severity⟩
      have hempty : ∀ later : List Note,
          (found.1.isEmpty && later.isEmpty) = (found.1 ++ later).isEmpty := by
        intro later
        cases found.1 <;> rfl
      rw [ih hstays]
      simp only [annotate, List.flatten_cons, Report.note_append, hempty]

/-- Applying the rule of a column is judging the record, and then writing the notes. -/
theorem validateRule_eq :
    validateRule environment row column session =
      let found := column.judge environment row session.memory
      (found.1.isEmpty, (enter column session).2.annotate found) := by
  have hentered : (enter column session).2.IsIn column := ⟨rfl, rfl⟩
  simp only [validateRule, ColumnDefinition.judge, bind_apply]
  cases row.get? (environment.settings.columnKey column.name) with
  | none => rfl
  | some value =>
      simp only
      split
      · rfl
      · exact applyChecks_eq hentered value column.rule.checks

end Session

end CsvSchema
