import CsvSchema.Run.Validation
import CsvSchema.Proofs.Notes.Rules

/-!
# Notes of a run

A run over records is a computation on its memory that finds the notes about each record and, at the
end, about the folders of integrity checks.  What the outcome says follows from these notes alone,
`Schema.outcomeOf_eq`: the notes about a record go to its line, those of the end to the last line,
and the outcome is valid if all of them are warnings.
-/

namespace CsvSchema

open Stateful

/-- What the columns have to say about a row. -/
def judgeColumns (environment : Environment) (row : Row) (columns : List ColumnDefinition) :
    StateM Memory (List Note) :=
  return (← columns.mapM fun column => column.judge environment row).flatten

/-- Each note about a row is made by one of the columns. -/
theorem exists_owns_of_mem_judgeColumns {environment : Environment} {row : Row}
    {columns : List ColumnDefinition} {memory : Memory} {note : Note}
    (h : note ∈ (judgeColumns environment row columns memory).1) :
    ∃ column ∈ columns, column.Owns note := by
  obtain ⟨column, hmem, middle, hcolumn⟩ := exists_of_mem_flatten_mapM h
  exact ⟨column, hmem, ColumnDefinition.owns_of_mem_judge hcolumn⟩

theorem composes_judgeColumns {Q : ∀ {α : Type}, StateM Memory α → Prop} (hQ : Composes @Q)
    {environment : Environment} {row : Row} {columns : List ColumnDefinition}
    (hcheck : ∀ column ∈ columns, ∀ check ∈ column.rule.checks, ∀ value,
      Q (check.evaluate (column.scope environment row) value)) :
    Q (judgeColumns environment row columns) :=
  hQ.bind (hQ.mapM fun column hmem => ColumnDefinition.composes_judge hQ (hcheck column hmem))
    fun _ => hQ.pure _

/-- What a schema has to say about a record. -/
def Schema.judgeRecord (schema : Schema) (environment : Environment) (record : List String) :
    StateM Memory (List Note) :=
  judgeColumns environment (Row.ofFields schema.columnKeys record) schema.columns

/-- What an integrity check has to say about a folder, some paths in which were named. -/
def References.judgeFolder (storage : Storage) (references : References) (root : Path)
    (named : List (List PathPart)) : StateM Memory (List Note) := do
  let entries ← walk storage root (references.rule == .includeFolder)
  let missing := entries.filter fun entry => !named.contains (entry.map .name)
  return missing.map fun entry => ⟨references.column, references.severity,
    fun _ => Session.unreferencedText references.column (namesPath entry) root⟩

/-- What an integrity check has to say about its folders. -/
def References.judge (storage : Storage) (references : References) :
    StateM Memory (List Note) :=
  return (← references.roots.entries.mapM fun root =>
    references.judgeFolder storage root.2.1 root.2.2).flatten

/-- What is left to say at the end of a run. -/
def judgeEnd (storage : Storage) : StateM Memory (List Note) := do
  let taken ← Memory.takeReferences
  return (← taken.mapM (References.judge storage)).flatten

/-- What is said at the end belongs to references that were taken. -/
theorem exists_column_of_mem_judgeEnd {storage : Storage} {memory : Memory} {note : Note}
    (h : note ∈ (judgeEnd storage memory).1) :
    ∃ references ∈ (Memory.takeReferences memory).1, note.column = references.column := by
  obtain ⟨references, hmem, _, hreferences⟩ := exists_of_mem_flatten_mapM h
  obtain ⟨root, -, _, hroot⟩ := exists_of_mem_flatten_mapM hreferences
  obtain ⟨entry, -, rfl⟩ := List.mem_map.1 hroot
  exact ⟨references, hmem, rfl⟩

/-- The notes of a run: those about each of its records, and those of its end. -/
def Schema.judgeRun (schema : Schema) (options : Options) (storage : Storage)
    (records : List (List String)) : List (List Note) × List Note :=
  let found := records.mapM (schema.judgeRecord ⟨schema.settings, options, storage⟩)
    (Memory.start options.memoize)
  (found.1, (judgeEnd storage found.2).1)

/-- The notes of a run depend on the settings, the names of the columns and what the columns have to
say about a row. -/
theorem Schema.judgeRun_congr {schema₁ schema₂ : Schema}
    (hsettings : schema₁.settings = schema₂.settings)
    (hkeys : schema₁.columnKeys = schema₂.columnKeys)
    (hcolumns : ∀ environment row, judgeColumns environment row schema₁.columns =
      judgeColumns environment row schema₂.columns) (options : Options) (storage : Storage)
    (records : List (List String)) :
    schema₁.judgeRun options storage records = schema₂.judgeRun options storage records := by
  have hrecord : ∀ environment,
      schema₁.judgeRecord environment = schema₂.judgeRecord environment := by
    intro environment
    funext record
    rw [judgeRecord, judgeRecord, hkeys, hcolumns]
  simp only [judgeRun, hsettings, hrecord]

namespace Session

/-- What an action does to a session that only writes down what it finds: where the session stands
in its column does not matter after it. -/
structure Writes (before : Session) (found : List Note × Memory) (after : Session) : Prop where
  line : after.line = before.line
  report : after.report = before.report.note before.line found.1
  memory : after.memory = found.2

theorem writes_annotate (session : Session) (found : List Note × Memory) :
    session.Writes found (session.annotate found) := ⟨rfl, rfl, rfl⟩

theorem Writes.trans {before middle after : Session} {first second : List Note × Memory}
    (h : before.Writes first middle) (h' : middle.Writes second after) :
    before.Writes (first.1 ++ second.1, second.2) after where
  line := h'.line.trans h.line
  report := by rw [h'.report, h.report, h.line, Report.note_append]
  memory := h'.memory

section Records

variable {environment : Environment} {row : Row}

/-- The notes that a column makes are warnings if all its failures are. -/
theorem isWarning_of_owns {column : ColumnDefinition} {notes : List Note}
    (h : ∀ note ∈ notes, column.Owns note) :
    (notes.isEmpty || column.rule.settings.severity == .warning) = notes.all Note.isWarning := by
  induction notes with
  | nil => rfl
  | cons note rest ih =>
      obtain ⟨hnote, hrest⟩ := List.forall_mem_cons.1 h
      rw [List.all_cons, ← ih hrest, Note.isWarning, hnote.2]
      cases column.rule.settings.severity == .warning <;> simp

theorem validateColumns_eq (columns : List ColumnDefinition) (session : Session) :
    let ran := validateColumns environment row columns session
    let found := judgeColumns environment row columns session.memory
    Schema.recordIsValid columns ran.1 = found.1.all Note.isWarning ∧
      session.Writes found ran.2 := by
  induction columns generalizing session with
  | nil => exact ⟨rfl, session.writes_annotate ([], session.memory)⟩
  | cons column rest ih =>
      simp only [validateColumns, judgeColumns, bind_apply, pure_apply, mapM_cons_apply,
        validateRule_eq] at ih ⊢
      have howns : ∀ note ∈ (column.judge environment row session.memory).1, column.Owns note :=
        fun _ => ColumnDefinition.owns_of_mem_judge
      generalize column.judge environment row session.memory = found at howns ⊢
      obtain ⟨hvalid, hwrites⟩ := ih ((enter column session).2.annotate found)
      have hentered : session.Writes found ((enter column session).2.annotate found) :=
        ⟨rfl, rfl, rfl⟩
      refine ⟨?_, hentered.trans hwrites⟩
      have hnotes : (found.1.isEmpty || column.rule.settings.severity == .warning) =
          found.1.all Note.isWarning := isWarning_of_owns howns
      rw [List.flatten_cons, List.all_append, ← hnotes]
      exact congrArg (_ && ·) hvalid

end Records

section Completeness

variable (storage : Storage) {references : References}

theorem pushAll_eq (severity : Severity) (messages : List String) (session : Session) :
    session.pushAll severity messages = session.annotate
      (messages.map fun message => ⟨session.column, severity, fun _ => message⟩,
        session.memory) := by
  induction messages generalizing session with
  | nil => rfl
  | cons message rest ih => exact ih (session.push severity message)

theorem reportFolder_eq (root : Path) (named : List (List PathPart)) (session : Session)
    (h : session.column = references.column) :
    let found := references.judgeFolder storage root named session.memory
    reportFolder storage references root named session =
      (found.1.all Note.isWarning, session.annotate found) := by
  simp only [reportFolder, References.judgeFolder, bind_apply, pure_apply, pushAll_eq, h,
    List.map_map]
  generalize walk storage root _ session.memory = walked
  obtain ⟨entries, memory⟩ := walked
  simp only
  generalize entries.filter _ = missing
  -- All notes about a folder are of the same severity.
  have hwarnings : (missing.isEmpty || references.severity == .warning) =
      (missing.map fun entry => (⟨references.column, references.severity,
        fun _ => unreferencedText references.column (namesPath entry) root⟩ : Note)).all
          Note.isWarning := by
    induction missing with
    | nil => rfl
    | cons entry rest ih =>
        rw [List.map_cons, List.all_cons, ← ih]
        cases hwarning : references.severity == .warning <;> simp [Note.isWarning, hwarning]
  rw [hwarnings]
  exact Prod.ext rfl (by rw [← h]; rfl)

theorem mapM_reportFolder_eq (roots : List (List PathPart × Path × List (List PathPart)))
    (session : Session) (h : session.column = references.column) :
    let found := roots.mapM (fun root => references.judgeFolder storage root.2.1 root.2.2)
      session.memory
    let ran := roots.mapM (fun root => reportFolder storage references root.2.1 root.2.2) session
    ran.1.all id = found.1.flatten.all Note.isWarning ∧
      ran.2 = session.annotate (found.1.flatten, found.2) := by
  induction roots generalizing session with
  | nil => exact ⟨rfl, rfl⟩
  | cons root rest ih =>
      simp only [mapM_cons_apply, reportFolder_eq storage root.2.1 root.2.2 session h,
        List.all_cons, List.flatten_cons, List.all_append, id_eq]
      generalize references.judgeFolder storage root.2.1 root.2.2 session.memory = found
      obtain ⟨hvalid, hends⟩ := ih (session.annotate found) h
      rw [hvalid, hends]
      exact ⟨rfl, by simp only [annotate, Report.note_append]⟩

theorem reportReferences_eq (references : References) (session : Session) :
    let found := references.judge storage session.memory
    let ran := reportReferences storage references session
    ran.1 = found.1.all Note.isWarning ∧ session.Writes found ran.2 := by
  obtain ⟨hvalid, hends⟩ := mapM_reportFolder_eq storage references.roots.entries
    { session with column := references.column } rfl
  simp only [reportReferences, References.judge, bind_apply, modify_apply, pure_apply]
  rw [hvalid, hends]
  exact ⟨rfl, ⟨rfl, rfl, rfl⟩⟩

theorem mapM_reportReferences_eq (taken : List References) (session : Session) :
    let found := taken.mapM (References.judge storage) session.memory
    let ran := taken.mapM (reportReferences storage) session
    ran.1.all id = found.1.flatten.all Note.isWarning ∧
      session.Writes (found.1.flatten, found.2) ran.2 := by
  induction taken generalizing session with
  | nil => exact ⟨rfl, session.writes_annotate ([], session.memory)⟩
  | cons references rest ih =>
      obtain ⟨hvalid, hwrites⟩ := reportReferences_eq storage references session
      obtain ⟨hrest, hends⟩ := ih (reportReferences storage references session).2
      simp only [mapM_cons_apply, List.all_cons, List.flatten_cons, List.all_append, id_eq]
      rw [hvalid, hrest, hwrites.memory]
      rw [hwrites.memory] at hends
      exact ⟨rfl, hwrites.trans hends⟩

/-- The end of a run writes down what is left to say. -/
theorem finish_eq (storage : Storage) (session : Session) :
    let found := judgeEnd storage session.memory
    let ran := finish storage session
    ran.1 = found.1.all Note.isWarning ∧ session.Writes found ran.2 := by
  obtain ⟨hvalid, hwrites⟩ := mapM_reportReferences_eq storage
    (Memory.takeReferences session.memory).1 (remembering Memory.takeReferences session).2
  exact ⟨hvalid, ⟨hwrites.line, hwrites.report, hwrites.memory⟩⟩

end Completeness

end Session

namespace Report

/-- A report with notes about consecutive lines added to it. -/
def notePages (report : Report) : Nat → List (List Note) → Report
  | _, [] => report
  | line, notes :: rest => notePages (report.note line notes) (line + 1) rest

end Report

namespace Schema

variable (schema : Schema)

theorem validateRecord_eq (environment : Environment) (record : List String) (session : Session) :
    let found := schema.judgeRecord environment record session.memory
    let ran := schema.validateRecord environment record session
    ran.1 = found.1.all Note.isWarning ∧
      { session with line := session.line + 1 }.Writes found ran.2 :=
  Session.validateColumns_eq schema.columns { session with line := session.line + 1 }

/-- All records are judged one after the other, each at its own line. -/
theorem validateAll_eq (environment : Environment) (records : List (List String))
    (session : Session) :
    let found := records.mapM (schema.judgeRecord environment) session.memory
    let ran := schema.validateAll environment records session
    ran.1 = found.1.flatten.all Note.isWarning ∧
      ran.2.line = session.line + records.length ∧
      ran.2.report = session.report.notePages (session.line + 1) found.1 ∧
      ran.2.memory = found.2 := by
  simp only [validateAll, bind_apply, pure_apply]
  induction records generalizing session with
  | nil => exact ⟨rfl, rfl, rfl, rfl⟩
  | cons record rest ih =>
      obtain ⟨hvalid, hwrites⟩ := schema.validateRecord_eq environment record session
      obtain ⟨hrest, hline, hreport, hmemory⟩ := ih (schema.validateRecord environment record
        session).2
      simp only [mapM_cons_apply, List.all_cons, List.flatten_cons, List.all_append, id_eq,
        List.length_cons, Report.notePages]
      rw [hwrites.memory] at hrest hreport hmemory
      rw [hwrites.line] at hline hreport
      rw [hwrites.report] at hreport
      refine ⟨by rw [hvalid, hrest], ?_, hreport, hmemory⟩
      rw [hline, Nat.add_right_comm, Nat.add_assoc]

/-- Whether the number of records of a file is permitted. -/
def permits (records : List (List String)) : Bool :=
  !(records.isEmpty && !schema.settings.permitEmpty)

/-- A report on a file, where it is noted if the file may not be without records. -/
def noteEmpty (records : List (List String)) (report : Report) : Report :=
  if schema.permits records then report else report.pushFile .error noRecordsText

/-- The line of the last record before the first one. -/
def headerLine : Nat := if schema.settings.noHeader then 0 else 1

/-- The outcome that the notes about some records and those of the end amount to. -/
def outcomeOfNotes (records : List (List String)) (notes : List (List Note) × List Note) :
    Outcome where
  valid := notes.1.flatten.all Note.isWarning && schema.permits records &&
    notes.2.all Note.isWarning
  report := (schema.noteEmpty records
    (Report.empty.notePages (schema.headerLine + 1) notes.1)).note
      (schema.headerLine + records.length) notes.2
  rows := records.length

theorem checkEmpty_eq (records : List (List String)) (session : Session) :
    schema.checkEmpty records session = (schema.permits records,
      { session with report := schema.noteEmpty records session.report }) := by
  unfold checkEmpty noteEmpty permits
  cases records.isEmpty && !schema.settings.permitEmpty <;> rfl

/-- The outcome of a run is what its notes amount to. -/
theorem outcomeOf_eq (options : Options) (storage : Storage) (records : List (List String)) :
    schema.outcomeOf options storage records =
      schema.outcomeOfNotes records (schema.judgeRun options storage records) := by
  obtain ⟨hvalid, hline, hreport, hmemory⟩ := schema.validateAll_eq
    ⟨schema.settings, options, storage⟩ records (schema.firstSession options)
  simp only [outcomeOf, runRecords, bind_apply, pure_apply, checkEmpty_eq]
  generalize schema.validateAll _ records _ = ran at hvalid hline hreport hmemory ⊢
  obtain ⟨hend, hwrites⟩ := Session.finish_eq storage
    { ran.2 with report := schema.noteEmpty records ran.2.report }
  rw [hend, hwrites.report, hvalid, hline, hreport, hmemory]
  rfl

/-- An outcome of a run over some records, which come after a header if the schema has one: they
were read elsewhere, or they are the rest of a file. -/
def HasOutcome (options : Options) (storage : Storage) (records : List (List String))
    (outcome : Outcome) : Prop :=
  (∃ header, schema.validateRecords options storage header records = .ok outcome) ∨
    ∃ head : List (List String), head.length = schema.headerLine ∧
      schema.validateFile options storage ((head ++ records).map .ok) = .ok outcome

/-- Whichever way the records come, the outcome is that of a run over them. -/
theorem HasOutcome.eq_outcomeOf {schema : Schema} {options : Options} {storage : Storage}
    {records : List (List String)} {outcome : Outcome}
    (h : schema.HasOutcome options storage records outcome) :
    outcome = schema.outcomeOf options storage records := by
  have hrun : ∀ header, schema.run options storage header (records.map .ok) = .ok outcome →
      outcome = schema.outcomeOf options storage records := by
    intro header hrun
    rw [run_map_ok] at hrun
    cases hstart : schema.checkStart header (records.map .ok) with
    | error e => rw [hstart] at hrun; cases hrun
    | ok _ =>
        rw [hstart] at hrun
        exact (Except.ok.inj hrun).symm
  -- The names that a header gives are checked, but they do not come into the outcome.
  unfold HasOutcome headerLine validateRecords validateFile at h
  cases hheader : schema.settings.noHeader with
  | true =>
      simp only [hheader, if_true, List.length_eq_zero_iff] at h
      rcases h with ⟨header, h⟩ | ⟨head, rfl, h⟩
      · exact hrun none h
      · exact hrun none h
  | false =>
      simp only [hheader, Bool.false_eq_true, if_false, List.length_eq_one_iff] at h
      rcases h with ⟨_ | header, h⟩ | ⟨head, ⟨header, rfl⟩, h⟩
      · cases h
      · exact hrun (some header) h
      · exact hrun (some header) h

end Schema

end CsvSchema
