import CsvSchema.Proofs.Reporting
import CsvSchema.Proofs.Notes.Rules

/-!
# What a rule adds to a session

Applying the rule of a column to a record ends in one of three ways.  A field that the record lacks
is one failure by itself, an empty field of an optional column is none, and neither asks any check.
Otherwise all checks are asked in their order, and each of them whose outcome is wrong adds one
message.  Which outcomes are wrong is up to the directive that turns matches into failures, but
what the checks are asked and what they remember is not: with the directive a rule complains of
exactly the checks that it accepts without it, `Session.validateRule_exact`.
-/

namespace CsvSchema

open Stateful

namespace ColumnDefinition

section Outcomes

variable (column : ColumnDefinition) (environment : Environment) (row : Row) (value : String)

/-- The outcomes of the checks of a rule for a value, one after the other.  Nothing is reported. -/
def outcomes : StateM Session (List Bool) :=
  column.rule.checks.mapM fun check =>
    Session.validate environment row
      (environment.options.ignoreCase || column.rule.settings.ignoreCase) none check value

/-- Whether an outcome is one that the rule reports. -/
def isWrong (outcome : Bool) : Bool := outcome == column.rule.settings.matchIsFalse

/-- The same column with the directive that turns matches into failures if it was without it, and
without the directive if it had it. -/
def turned : ColumnDefinition :=
  { column with rule.settings.matchIsFalse := !column.rule.settings.matchIsFalse }

end Outcomes

/-- A verdict gives one note if its outcome is wrong, and no note otherwise. -/
theorem exists_verdictNotes_eq (column : ColumnDefinition) (check : Check) (value : String)
    (verdict : Verdict) :
    ∃ text : Option (Nat → String), text.isSome = column.isWrong verdict.isHeld ∧
      column.verdictNotes check value verdict = (text.map column.note).toList := by
  unfold verdictNotes isWrong
  cases column.rule.settings.matchIsFalse with
  | true =>
      cases verdict with
      | holds => exact ⟨some _, rfl, rfl⟩
      | fails complaint => exact ⟨none, rfl, rfl⟩
  | false =>
      cases verdict with
      | holds => exact ⟨none, rfl, rfl⟩
      | fails complaint => exact ⟨some _, rfl, rfl⟩

/-- What the checks of a rule have to say, check by check. -/
theorem exists_mapM_judgeCheck_eq (column : ColumnDefinition) (environment : Environment)
    (row : Row) (value : String) (checks : List Check) (memory : Memory) :
    let verdicts := checks.mapM (fun check =>
      check.evaluate (column.scope environment row) value) memory
    ∃ texts : List (Option (Nat → String)),
      texts.map Option.isSome = verdicts.1.map (fun verdict => column.isWrong verdict.isHeld) ∧
      checks.mapM (column.judgeCheck environment row value) memory =
        (texts.map fun text => (text.map column.note).toList, verdicts.2) := by
  induction checks generalizing memory with
  | nil => exact ⟨[], rfl, rfl⟩
  | cons check rest ih =>
      simp only [mapM_cons_apply, judgeCheck, bind_apply, pure_apply]
      generalize check.evaluate _ value memory = found
      obtain ⟨text, hsome, hnotes⟩ := exists_verdictNotes_eq column check value found.1
      obtain ⟨texts, hsomes, hrest⟩ := ih found.2
      refine ⟨text :: texts, ?_, ?_⟩
      · rw [List.map_cons, hsome, hsomes, List.map_cons]
      · rw [hrest, hnotes]
        rfl

theorem flatten_map_toList (column : ColumnDefinition) (texts : List (Option (Nat → String))) :
    (texts.map fun text => (text.map column.note).toList).flatten =
      (texts.filterMap id).map column.note := by
  induction texts with
  | nil => rfl
  | cons text rest ih =>
      rw [List.map_cons, List.flatten_cons, ih]
      cases text with
      | none => rfl
      | some text => rfl

end ColumnDefinition

namespace Session

variable {environment : Environment} {row : Row} {column : ColumnDefinition} {session : Session}

/-- Asking checks in silence finds their verdicts and leaves nothing but what they remember. -/
theorem mapM_validate_silent (h : session.IsIn column) (value : String) (checks : List Check) :
    checks.mapM (fun check => validate environment row
        (environment.options.ignoreCase || column.rule.settings.ignoreCase) none check value)
        session =
      let verdicts := checks.mapM (fun check =>
        check.evaluate (column.scope environment row) value) session.memory
      (verdicts.1.map Verdict.isHeld, { session with memory := verdicts.2 }) := by
  induction checks generalizing session with
  | nil => rfl
  | cons check rest ih =>
      simp only [mapM_cons_apply, validate_eq_settle, settle_silent, h.scope_eq environment row]
      generalize check.evaluate _ value session.memory = found
      -- A check that is asked in silence does not take the session out of the column.
      have hstays : ({ session with memory := found.2 } : Session).IsIn column :=
        ⟨h.name, h.severity⟩
      rw [ih hstays]
      rfl

/-- Notes of a column are written as messages at its severity, in their order. -/
theorem annotate_map_note (h : session.IsIn column) (texts : List (Nat → String))
    (memory : Memory) :
    session.annotate (texts.map column.note, memory) =
      ({ session with memory } : Session).pushAll column.rule.settings.severity
        (texts.map fun text => text session.line) := by
  induction texts generalizing session with
  | nil => rfl
  | cons text rest ih =>
      have hpushed : (session.push column.rule.settings.severity (text session.line)).IsIn column :=
        ⟨h.name, h.severity⟩
      have hrest := ih hpushed
      simp only [annotate, List.map_cons, Report.note_cons, pushAll, List.foldl_cons] at hrest ⊢
      rw [ColumnDefinition.note, ← h.name]
      exact hrest

/-- When the checks of a rule are asked, each of them whose outcome is wrong adds one message. -/
theorem exists_validateRule_eq (column : ColumnDefinition) (session : Session) {value : String}
    (hfield : row.get? (environment.settings.columnKey column.name) = some value)
    (hasked : (column.rule.settings.optional && value.isEmpty) = false) :
    let found := column.outcomes environment row value (enter column session).2
    found.2.report = session.report ∧
      found.1.length = column.rule.checks.length ∧
      ∃ messages : List (Option String),
        messages.map Option.isSome = found.1.map column.isWrong ∧
        validateRule environment row column session =
          ((messages.filterMap id).isEmpty,
            found.2.pushAll column.rule.settings.severity (messages.filterMap id)) := by
  have hentered : (enter column session).2.IsIn column := ⟨rfl, rfl⟩
  obtain ⟨texts, hsome, hfound⟩ := ColumnDefinition.exists_mapM_judgeCheck_eq column environment
    row value column.rule.checks session.memory
  have hmessages : (texts.map fun text => text.map (· session.line)).filterMap id =
      (texts.filterMap id).map (· session.line) := by
    rw [List.filterMap_map, List.map_filterMap]
    rfl
  have hoptional : ¬ ((column.rule.settings.optional && value.isEmpty) = true) := by
    rw [hasked]
    exact Bool.false_ne_true
  have hnotes := annotate_map_note hentered (texts.filterMap id)
  -- Asked in silence, the checks decide the same and leave the report alone.
  simp only [ColumnDefinition.outcomes, mapM_validate_silent hentered]
  refine ⟨rfl, ?_, texts.map fun text => text.map (· session.line), ?_, ?_⟩
  · rw [List.length_map, length_mapM]
  · rw [List.map_map, List.map_map]
    exact (List.map_congr_left fun text _ => Option.isSome_map).trans hsome
  · simp only [validateRule_eq, ColumnDefinition.judge, hfield, if_neg hoptional, bind_apply,
      pure_apply, hfound, ColumnDefinition.flatten_map_toList, hmessages, hnotes,
      List.isEmpty_map]
    rfl

/-- There are as many messages as there are wrong outcomes. -/
theorem length_filterMap_messages {outcomes : List Bool} {messages : List (Option String)}
    (h : messages.map Option.isSome = outcomes.map column.isWrong) :
    (messages.filterMap id).length = outcomes.countP column.isWrong := by
  calc (messages.filterMap id).length
      = messages.countP Option.isSome := List.length_filterMap_eq_countP
    _ = (messages.map Option.isSome).countP id := by rw [List.countP_map]; rfl
    _ = outcomes.countP column.isWrong := by rw [h, List.countP_map]; rfl

theorem countP_isWrong_turned (column : ColumnDefinition) (outcomes : List Bool) :
    outcomes.countP column.isWrong + outcomes.countP column.turned.isWrong = outcomes.length := by
  have hturned : ∀ outcome, column.turned.isWrong outcome = !column.isWrong outcome := by
    intro outcome
    unfold ColumnDefinition.isWrong ColumnDefinition.turned
    cases outcome <;> cases column.rule.settings.matchIsFalse <;> rfl
  rw [List.length_eq_countP_add_countP column.isWrong]
  congr 1
  exact List.countP_congr fun outcome _ => by simp [hturned]

/-- A rule is exact.  A missing field fails with one message and no check is asked; an empty field
of an optional column passes and the session stays as it was; otherwise all checks are asked in
order, and the rule fails with one message for each of them whose outcome is wrong.  In that case
the rule with matches and failures exchanged leaves the same memory, and the two have one message
for each check between them. -/
theorem validateRule_exact (environment : Environment) (row : Row) (column : ColumnDefinition)
    (session : Session) :
    let severity := column.rule.settings.severity
    let entered := (enter column session).2
    let (held, after) := validateRule environment row column session
    match row.get? (environment.settings.columnKey column.name) with
    | none => held = false ∧
        after = entered.push severity (missingText column.name session.line)
    | some value =>
        if column.rule.settings.optional && value.isEmpty then held = true ∧ after = entered
        else
          let (outcomes, asked) := column.outcomes environment row value entered
          let turned := (validateRule environment row column.turned session).2
          asked.report = session.report ∧ outcomes.length = column.rule.checks.length ∧
          (held = true ↔ ∀ outcome ∈ outcomes, column.isWrong outcome = false) ∧
          (∃ messages : List (Option String),
            messages.map Option.isSome = outcomes.map column.isWrong ∧
            after = asked.pushAll severity (messages.filterMap id)) ∧
          after.report.count severity =
            session.report.count severity + outcomes.countP column.isWrong ∧
          turned.report.count severity =
            session.report.count severity + outcomes.countP column.turned.isWrong ∧
          outcomes.countP column.isWrong + outcomes.countP column.turned.isWrong =
            column.rule.checks.length ∧
          turned.memory = after.memory := by
  cases hfield : row.get? (environment.settings.columnKey column.name) with
  | none =>
      simp only [validateRule, bind_apply, hfield]
      exact ⟨rfl, rfl⟩
  | some value =>
      by_cases hskipped : (column.rule.settings.optional && value.isEmpty) = true
      · simp only [validateRule, bind_apply, hfield, if_pos hskipped]
        exact ⟨rfl, rfl⟩
      · have hasked := Bool.eq_false_iff.2 hskipped
        obtain ⟨hreport, hlength, messages, hmessages, hrule⟩ :=
          exists_validateRule_eq column session hfield hasked
        -- The rule with the other directive asks the same checks in the same session.
        obtain ⟨-, -, turned, hturned, hruleTurned⟩ :=
          exists_validateRule_eq column.turned session hfield hasked
        have houtcomes :
            column.turned.outcomes environment row value (enter column.turned session).2 =
              column.outcomes environment row value (enter column session).2 := rfl
        have hseverity : column.turned.rule.settings.severity = column.rule.settings.severity := rfl
        rw [houtcomes] at hturned hruleTurned
        have hcount := length_filterMap_messages hmessages
        have hcountTurned := length_filterMap_messages hturned
        simp only [hrule, hruleTurned, if_neg hskipped]
        generalize column.outcomes environment row value (enter column session).2 = found at *
        obtain ⟨outcomes, asked⟩ := found
        simp only at hreport hlength hcount hcountTurned hmessages ⊢
        refine ⟨hreport, hlength, ?_, ⟨messages, hmessages, rfl⟩, ?_, ?_, ?_, ?_⟩
        · rw [List.isEmpty_iff_length_eq_zero, hcount, List.countP_eq_zero]
          simp only [Bool.not_eq_true]
        · rw [count_pushAll, hreport, hcount]
        · rw [hseverity, count_pushAll, hreport, hcountTurned]
        · rw [countP_isWrong_turned, hlength]
        · rw [memory_pushAll, memory_pushAll]

end Session

end CsvSchema
