import CsvSchema.Run.Validation
import CsvSchema.Storage.Memory
import CsvSchema.Proofs.Verdict
import CsvSchema.Proofs.Report.Cells

/-!
# Outcomes and reports

A run is valid if and only if it reported no error, `valid_iff_no_error`.  The verdict and the
report are made along different ways; what ties them together is `Report.Tallies`, which every
step of a run has and which steps one after the other pass on.
-/

namespace CsvSchema

/-- From one report to another no error was taken back, and `valid` says whether none was
added. -/
structure Report.Tallies (valid : Bool) (before after : Report) : Prop where
  le : before.count .error ≤ after.count .error
  valid_iff : valid = true ↔ after.count .error = before.count .error

namespace Report.Tallies

variable {valid₁ valid₂ : Bool} {before middle after : Report}

theorem refl (report : Report) : Tallies true report report where
  le := Nat.le_refl _
  valid_iff := by simp

theorem trans (first : Tallies valid₁ before middle) (second : Tallies valid₂ middle after) :
    Tallies (valid₁ && valid₂) before after where
  le := Nat.le_trans first.le second.le
  valid_iff := by
    have hle₁ := first.le
    have hle₂ := second.le
    rw [Bool.and_eq_true, first.valid_iff, second.valid_iff]
    omega

/-- A message spoils a report exactly if it is an error. -/
theorem push (report : Report) (row : Nat) (column : String) (severity : Severity)
    (message : String) :
    Tallies (severity == .warning) report (report.push row column severity message) := by
  cases severity with
  | error => constructor <;> simp [count_push]
  | warning => constructor <;> simp [count_push]

theorem pushFile_error (report : Report) (message : String) :
    Tallies false report (report.pushFile .error message) := by
  constructor <;> simp [count_pushFile]

/-- Computations that tally one by one tally together. -/
theorem mapM {α : Type} {action : α → StateM Session Bool} {items : List α}
    (h : ∀ item ∈ items, ∀ session,
      Tallies (action item session).1 session.report (action item session).2.report)
    (session : Session) :
    Tallies ((items.mapM action session).1.all id) session.report
      (items.mapM action session).2.report := by
  induction items generalizing session with
  | nil => exact refl session.report
  | cons item rest ih =>
      have hitem := h item List.mem_cons_self session
      have hrest := ih (fun item hmem => h item (List.mem_cons_of_mem _ hmem))
        (action item session).2
      simpa using hitem.trans hrest

end Report.Tallies

open Report (Tallies)

namespace Session

/-- A check that is reported at a severity spoils the report if it fails and the severity is that
of an error. -/
theorem tallies_settle (session : Session) (severity : Severity) (outcome : Verdict × Memory) :
    Tallies ((session.settle (some severity) outcome).1 || severity == .warning) session.report
      (session.settle (some severity) outcome).2.report := by
  obtain ⟨_ | complaint, memory⟩ := outcome
  · exact Tallies.refl session.report
  · exact Tallies.push session.report session.line session.column severity _

section Rules

variable (environment : Environment) (row : Row) (column : ColumnDefinition) (value : String)

theorem tallies_applyCheck (check : Check) (session : Session) :
    Tallies ((applyCheck environment row column value check session).1 ||
        column.rule.settings.severity == .warning) session.report
      (applyCheck environment row column value check session).2.report := by
  cases hmatch : column.rule.settings.matchIsFalse with
  | false =>
      simp only [applyCheck, hmatch, Bool.false_eq_true, if_false, validate_eq_settle]
      exact tallies_settle session column.rule.settings.severity _
  | true =>
      simp only [applyCheck, hmatch, if_true, Stateful.bind_apply, validate_eq_settle,
        settle_silent]
      generalize check.evaluate _ value session.memory = outcome
      obtain ⟨_ | complaint, memory⟩ := outcome
      · exact Tallies.push session.report session.line session.column _ _
      · exact Tallies.refl session.report

theorem tallies_applyChecks (checks : List Check) (session : Session) :
    Tallies ((applyChecks environment row column value checks session).1 ||
        column.rule.settings.severity == .warning) session.report
      (applyChecks environment row column value checks session).2.report := by
  induction checks generalizing session with
  | nil => exact Tallies.refl session.report
  | cons check rest ih =>
      have hcheck := tallies_applyCheck environment row column value check session
      have hrest := ih (applyCheck environment row column value check session).2
      -- A column of warnings excuses every check, so it can be taken out of the conjunction.
      rw [applyChecks]
      simp only [Stateful.bind_apply, Stateful.pure_apply, Bool.or_and_distrib_right]
      exact hcheck.trans hrest

theorem tallies_validateRule (session : Session) :
    Tallies ((validateRule environment row column session).1 ||
        column.rule.settings.severity == .warning) session.report
      (validateRule environment row column session).2.report := by
  simp only [validateRule, Stateful.bind_apply]
  cases row.get? (environment.settings.columnKey column.name) with
  | none => exact Tallies.push session.report session.line column.name _ _
  | some value =>
      by_cases hskip : (column.rule.settings.optional && value.isEmpty) = true
      · simp only [hskip, if_true]
        exact Tallies.refl session.report
      · simp only [hskip]
        exact tallies_applyChecks environment row column value column.rule.checks _

/-- The columns of a record tally together: a record is spoiled by a column that fails and whose
failures are errors. -/
theorem tallies_validateColumns (columns : List ColumnDefinition) (session : Session) :
    Tallies (Schema.recordIsValid columns (validateColumns environment row columns session).1)
      session.report (validateColumns environment row columns session).2.report := by
  induction columns generalizing session with
  | nil => exact Tallies.refl session.report
  | cons column rest ih =>
      have hcolumn := tallies_validateRule environment row column session
      have hrest := ih (validateRule environment row column session).2
      simp only [validateColumns, Stateful.mapM_cons_apply, Schema.recordIsValid,
        List.zip_cons_cons, List.all_cons]
      exact hcolumn.trans hrest

end Rules

section Completeness

variable (storage : Storage) (references : References)

/-- Reporting the entries of a folder that no record named. -/
theorem tallies_pushAll (severity : Severity) (messages : List String) (session : Session) :
    Tallies (messages.isEmpty || severity == .warning) session.report
      (session.pushAll severity messages).report := by
  induction messages generalizing session with
  | nil => exact Tallies.refl session.report
  | cons message rest ih =>
      -- One error spoils the report, and warnings never do.
      have hmessage := Tallies.push session.report session.line session.column severity message
      have hrest := ih (session.push severity message)
      have hflag : ((severity == .warning) && (rest.isEmpty || severity == .warning)) =
          ((message :: rest).isEmpty || severity == .warning) := by
        cases severity <;> simp
      rw [← hflag]
      exact hmessage.trans hrest

theorem tallies_reportFolder (root : Path) (named : List (List PathPart)) (session : Session) :
    Tallies (reportFolder storage references root named session).1 session.report
      (reportFolder storage references root named session).2.report := by
  let walked := walk storage root (references.rule == .includeFolder) session.memory
  let missing := walked.1.filter fun entry => !named.contains (entry.map .name)
  have hpushed := tallies_pushAll references.severity
    (missing.map fun entry => unreferencedText references.column (namesPath entry) root)
    { session with memory := walked.2 }
  rw [List.isEmpty_map] at hpushed
  exact hpushed

theorem tallies_reportReferences (session : Session) :
    Tallies (reportReferences storage references session).1 session.report
      (reportReferences storage references session).2.report :=
  Tallies.mapM (fun root _ => tallies_reportFolder storage references root.2.1 root.2.2)
    { session with column := references.column }

theorem tallies_finish (session : Session) :
    Tallies (finish storage session).1 session.report (finish storage session).2.report :=
  Tallies.mapM (fun references _ => tallies_reportReferences storage references) _

end Completeness

end Session

namespace Schema

variable (schema : Schema) (environment : Environment)

theorem tallies_validateRecord (record : List String) (session : Session) :
    Tallies (schema.validateRecord environment record session).1 session.report
      (schema.validateRecord environment record session).2.report :=
  Session.tallies_validateColumns environment (Row.ofFields schema.columnKeys record)
    schema.columns { session with line := session.line + 1 }

theorem tallies_validateAll (records : List (List String)) (session : Session) :
    Tallies (schema.validateAll environment records session).1 session.report
      (schema.validateAll environment records session).2.report :=
  Tallies.mapM (fun record _ => tallies_validateRecord schema environment record) session

theorem tallies_checkEmpty (records : List (List String)) (session : Session) :
    Tallies (schema.checkEmpty records session).1 session.report
      (schema.checkEmpty records session).2.report := by
  by_cases hempty : (records.isEmpty && !schema.settings.permitEmpty) = true
  · simp only [checkEmpty, hempty, if_true]
    exact Tallies.pushFile_error session.report noRecordsText
  · simp only [checkEmpty, hempty]
    exact Tallies.refl session.report

theorem tallies_runRecords (records : List (List String)) (session : Session) :
    Tallies (schema.runRecords environment records session).1 session.report
      (schema.runRecords environment records session).2.report := by
  let afterRecords := (schema.validateAll environment records session).2
  let afterEmpty := (schema.checkEmpty records afterRecords).2
  have hrecords := tallies_validateAll schema environment records session
  have hempty := tallies_checkEmpty schema records afterRecords
  have hfinish := Session.tallies_finish environment.storage afterEmpty
  exact (hrecords.trans hempty).trans hfinish

/-- A run that has an outcome is a run over its records. -/
theorem eq_outcomeOf_of_run {options : Options} {storage : Storage} {header : Option (List String)}
    {records : List (Except RunError (List String))} {outcome : Outcome}
    (h : schema.run options storage header records = .ok outcome) :
    ∃ fields, outcome = schema.outcomeOf options storage fields := by
  simp only [run, bind, Except.bind, pure, Except.pure] at h
  split at h
  · cases h
  · split at h
    · cases h
    · rename_i fields _
      exact ⟨fields, (Except.ok.inj h).symm⟩

theorem outcomeOf_valid_iff (options : Options) (storage : Storage)
    (records : List (List String)) :
    (schema.outcomeOf options storage records).valid = true ↔
      (schema.outcomeOf options storage records).report.count .error = 0 :=
  (tallies_runRecords schema ⟨schema.settings, options, storage⟩ records
    (schema.firstSession options)).valid_iff

/-- Whether the records come from elsewhere or from a file, an outcome is valid if and only if its
report has no error, about the file or about a record. -/
theorem valid_iff_no_error (options : Options) (storage : Storage) (outcome : Outcome)
    (h : (∃ header records, schema.validateRecords options storage header records = .ok outcome) ∨
      ∃ records, schema.validateFile options storage records = .ok outcome) :
    outcome.valid = true ↔ outcome.report.count .error = 0 := by
  obtain ⟨fields, rfl⟩ : ∃ fields, outcome = schema.outcomeOf options storage fields := by
    rcases h with ⟨header, records, h⟩ | ⟨records, h⟩
    · unfold validateRecords at h
      split at h
      · exact eq_outcomeOf_of_run schema h
      · split at h
        · cases h
        · exact eq_outcomeOf_of_run schema h
    · unfold validateFile at h
      split at h
      · exact eq_outcomeOf_of_run schema h
      · split at h
        · cases h
        · cases h
        · exact eq_outcomeOf_of_run schema h
  exact outcomeOf_valid_iff schema options storage fields

/-- A record with two empty fields that must not be empty, one of them in a column whose failures
are warnings. -/
theorem valid_iff_no_error_of_empty_fields :
    let schema : Schema := ⟨.v10, .initial,
      [⟨"name", ⟨[.atom (.value .notEmpty)], .initial⟩⟩,
        ⟨"note", ⟨[.atom (.value .notEmpty)], { ColumnSettings.initial with warning := true }⟩⟩], 0⟩
    ∃ outcome, schema.validateRecords .initial MemoryStorage.empty.toStorage
        (some ["name", "note"]) [["x", "y"], ["", ""]] = .ok outcome ∧
      outcome.report.count .error = 1 ∧ outcome.report.count .warning = 1 ∧
      (outcome.valid = true ↔ outcome.report.count .error = 0) := by
  intro schema
  have h : schema.validateRecords .initial MemoryStorage.empty.toStorage
      (some ["name", "note"]) [["x", "y"], ["", ""]] =
      .ok (schema.outcomeOf .initial MemoryStorage.empty.toStorage [["x", "y"], ["", ""]]) := rfl
  exact ⟨_, h, by decide, by decide, valid_iff_no_error schema _ _ _ (.inl ⟨_, _, h⟩)⟩

end Schema

end CsvSchema
