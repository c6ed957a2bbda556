import CsvSchema.Proofs.Verdict
import CsvSchema.Proofs.Report.Cells

/-!
# Reporting

What checking a value does to a session besides finding the verdict.  A failure at a level puts one
message into the cell of the current line and column, `validate_reports_once`; nothing else is
reported, and the line, the column and the severity of the session stay.  The level decides about
nothing but that message, `validate_same_at_all_levels`.
-/

namespace CsvSchema

namespace Session

/-- Where a session stands in the file does not depend on what is reported. -/
theorem settle_keeps_place (session : Session) (level : Option Severity)
    (outcome : Verdict × Memory) :
    (session.settle level outcome).2.line = session.line ∧
      (session.settle level outcome).2.column = session.column ∧
      (session.settle level outcome).2.severity = session.severity := by
  obtain ⟨_ | complaint, memory⟩ := outcome
  · exact ⟨rfl, rfl, rfl⟩
  · cases level with
    | none => exact ⟨rfl, rfl, rfl⟩
    | some severity => exact ⟨rfl, rfl, rfl⟩

theorem settle_memory (session : Session) (level : Option Severity) (outcome : Verdict × Memory) :
    (session.settle level outcome).2.memory = outcome.2 := by
  obtain ⟨_ | complaint, memory⟩ := outcome
  · rfl
  · cases level with
    | none => rfl
    | some severity => rfl

theorem settle_report_of_holds (session : Session) (level : Option Severity) {verdict : Verdict}
    (memory : Memory) (h : verdict.isHeld = true) :
    (session.settle level (verdict, memory)).2.report = session.report := by
  cases verdict with
  | holds => rfl
  | fails complaint => simp [Verdict.isHeld] at h

theorem settle_report_of_fails (session : Session) (severity : Severity) {verdict : Verdict}
    (memory : Memory) (h : verdict.isHeld = false) :
    ∃ message, (session.settle (some severity) (verdict, memory)).2.report =
      session.report.push session.line session.column severity message := by
  cases verdict with
  | holds => simp [Verdict.isHeld] at h
  | fails complaint => exact ⟨_, rfl⟩

section Messages

variable (session : Session) (severity : Severity) (messages : List String)

theorem get_pushAll :
    (session.pushAll severity messages).report.get session.line session.column severity =
      session.report.get session.line session.column severity ++ messages := by
  induction messages generalizing session with
  | nil => exact (List.append_nil _).symm
  | cons message rest ih =>
      have hrest := ih (session.push severity message)
      have hcell : (session.push severity message).report.get session.line session.column severity =
          session.report.get session.line session.column severity ++ [message] := by
        rw [push, Report.get_push, if_pos ⟨rfl, rfl, rfl⟩]
      rw [pushAll, List.foldl_cons]
      change ((session.push severity message).pushAll severity rest).report.get
        (session.push severity message).line (session.push severity message).column severity = _
      rw [hrest]
      change (session.push severity message).report.get session.line session.column severity ++
        rest = _
      rw [hcell, List.append_assoc, List.singleton_append]

theorem count_pushAll :
    (session.pushAll severity messages).report.count severity =
      session.report.count severity + messages.length := by
  induction messages generalizing session with
  | nil => rfl
  | cons message rest ih =>
      have hrest := ih (session.push severity message)
      have hcount : (session.push severity message).report.count severity =
          session.report.count severity + 1 := by
        rw [push, Report.count_push, if_pos rfl]
      rw [pushAll, List.foldl_cons]
      change ((session.push severity message).pushAll severity rest).report.count severity = _
      rw [hrest, hcount, List.length_cons]
      omega

theorem memory_pushAll : (session.pushAll severity messages).memory = session.memory := by
  induction messages generalizing session with
  | nil => rfl
  | cons message rest ih => exact ih (session.push severity message)

end Messages

variable (environment : Environment) (row : Row) (fold : Bool) (check : Check) (value : String)
  (session : Session)

/-- A check that fails at a level adds exactly one message, to the current cell.  One that holds, or
that is evaluated silently, adds none. -/
theorem validate_reports_once (level : Option Severity) :
    let (held, after) := validate environment row fold level check value session
    (match held, level with
      | false, some severity => ∃ message,
          after.report = session.report.push session.line session.column severity message ∧
            Report.AddsOne session.report after.report session.line session.column severity message
      | _, _ => after.report = session.report) ∧
      after.line = session.line ∧ after.column = session.column ∧
      after.severity = session.severity := by
  rw [validate_eq_settle]
  obtain ⟨verdict, memory⟩ :=
    check.evaluate (session.scope environment row fold) value session.memory
  refine ⟨?_, settle_keeps_place session level (verdict, memory)⟩
  -- From here on only the verdict matters, not how it was found.
  change match verdict.isHeld, level with
    | false, some severity => ∃ message,
        (session.settle level (verdict, memory)).2.report =
          session.report.push session.line session.column severity message ∧
          Report.AddsOne session.report (session.settle level (verdict, memory)).2.report
            session.line session.column severity message
    | _, _ => (session.settle level (verdict, memory)).2.report = session.report
  cases hheld : verdict.isHeld with
  | true => exact settle_report_of_holds session level memory hheld
  | false =>
      cases level with
      | none => rw [settle_silent]
      | some severity =>
          obtain ⟨message, hreport⟩ := settle_report_of_fails session severity memory hheld
          refine ⟨message, hreport, ?_⟩
          rw [hreport]
          exact Report.addsOne_push session.report session.line session.column severity message

/-- Whatever level a check is evaluated at, from the same session it has the same outcome and
leaves the same memory.  Only the reports can differ. -/
theorem validate_same_at_all_levels (level₁ level₂ : Option Severity) :
    let run₁ := validate environment row fold level₁ check value session
    let run₂ := validate environment row fold level₂ check value session
    run₁.1 = run₂.1 ∧ run₁.2.memory = run₂.2.memory ∧
      { run₁.2 with report := run₂.2.report } = run₂.2 := by
  simp only [validate_eq_settle]
  -- The verdict and the memory are found before the level is looked at.
  generalize check.evaluate (session.scope environment row fold) value session.memory = outcome
  obtain ⟨hline₁, hcolumn₁, hseverity₁⟩ := settle_keeps_place session level₁ outcome
  obtain ⟨hline₂, hcolumn₂, hseverity₂⟩ := settle_keeps_place session level₂ outcome
  have hmemory : (session.settle level₁ outcome).2.memory =
      (session.settle level₂ outcome).2.memory := by
    rw [settle_memory, settle_memory]
  refine ⟨rfl, hmemory, ?_⟩
  rw [hline₁, hcolumn₁, hseverity₁, hmemory, ← hline₂, ← hcolumn₂, ← hseverity₂]

end Session

end CsvSchema
