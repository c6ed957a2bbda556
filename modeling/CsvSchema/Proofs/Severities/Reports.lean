import CsvSchema.Proofs.Outcome
import CsvSchema.Proofs.WellFormed.Documents
import CsvSchema.Proofs.Notes.Reports
import CsvSchema.Proofs.Independence.Columns
import CsvSchema.Proofs.Severities.Runs

/-!
# Warnings instead of errors

A column whose failures are warnings is checked like one whose failures are errors.  The reports of
both runs list the same messages, those about the column as warnings, and the run with warnings is
valid if the other one has no error about anything else, `Schema.validateRecords_softened`.
-/

namespace CsvSchema

/-- An entry of a report in which the messages about one column are warnings. -/
def ReportEntry.softened (name : String) (entry : ReportEntry) : ReportEntry :=
  if entry.column = some name then { entry with severity := .warning } else entry

namespace Report

/-- Two reports say the same, but the messages about one column are errors in the first one and
warnings in the second one. -/
structure SoftenedIn (name : String) (report₁ report₂ : Report) : Prop where
  file : report₁.file = report₂.file
  others : ∀ row column severity, column ≠ name →
    report₁.get row column severity = report₂.get row column severity
  texts : ∀ row, report₁.get row name .error = report₂.get row name .warning
  noWarnings : ∀ row, report₁.get row name .warning = []
  noErrors : ∀ row, report₂.get row name .error = []

namespace SoftenedIn

variable {name : String} {report₁ report₂ : Report}

theorem empty (name : String) : SoftenedIn name .empty .empty :=
  ⟨rfl, fun _ _ _ _ => rfl, fun _ => rfl, fun _ => rfl, fun _ => rfl⟩

theorem pushFile (h : SoftenedIn name report₁ report₂) (severity : Severity) (message : String) :
    SoftenedIn name (report₁.pushFile severity message) (report₂.pushFile severity message) :=
  { h with file := by rw [Report.pushFile, Report.pushFile, h.file] }

/-- One more message, which is rated as an error on one side and as a warning on the other one if it
is about the column. -/
theorem push (h : SoftenedIn name report₁ report₂) (row : Nat) (column : String)
    (severity : Severity) (message : String) :
    SoftenedIn name (report₁.push row column (rated name .error column severity) message)
      (report₂.push row column (rated name .warning column severity) message) := by
  by_cases hcolumn : column = name
  · subst hcolumn
    simp only [rated, if_true]
    refine ⟨h.file, fun r c s hc => ?_, fun r => ?_, fun r => ?_, fun r => ?_⟩
    · simp [get_push, hc, h.others r c s hc]
    · simp [get_push, h.texts r]
    · simp [get_push, h.noWarnings r]
    · simp [get_push, h.noErrors r]
  · simp only [rated, if_neg hcolumn]
    have hname : name ≠ column := fun heq => hcolumn heq.symm
    refine ⟨h.file, fun r c s hc => ?_, fun r => ?_, fun r => ?_, fun r => ?_⟩
    · rw [get_push, get_push, h.others r c s hc]
    · simp [get_push, hname, h.texts r]
    · simp [get_push, hname, h.noWarnings r]
    · simp [get_push, hname, h.noErrors r]

theorem note (h : SoftenedIn name report₁ report₂) (line : Nat) (notes : List Note) :
    SoftenedIn name (report₁.note line (notes.map (Note.rated name .error)))
      (report₂.note line (notes.map (Note.rated name .warning))) := by
  induction notes generalizing report₁ report₂ with
  | nil => exact h
  | cons note rest ih => exact ih (h.push line note.column note.severity (note.text line))

theorem notePages (h : SoftenedIn name report₁ report₂) (line : Nat) (pages : List (List Note)) :
    SoftenedIn name (report₁.notePages line (pages.map (List.map (Note.rated name .error))))
      (report₂.notePages line (pages.map (List.map (Note.rated name .warning)))) := by
  induction pages generalizing report₁ report₂ line with
  | nil => exact h
  | cons notes rest ih => exact ih (h.note line notes) (line + 1)

end SoftenedIn

section Messages

variable {name : String}

/-- Errors are listed before warnings. -/
theorem columnEntries_eq (row : Nat) (column : String) (severities : ColumnMessages) :
    columnEntries row column severities =
      cellEntries row column .error ((severities.get? .error).getD []) ++
        cellEntries row column .warning ((severities.get? .warning).getD []) := by
  let both : ColumnMessages :=
    (OrderedMap.empty.insert .error ((severities.get? .error).getD [])).insert .warning
      ((severities.get? .warning).getD [])
  have hboth : columnEntries row column severities = columnEntries row column both := by
    refine columnEntries_congr row column fun severity => ?_
    simp only [both, OrderedMap.get?_insert]
    cases severity <;> rfl
  rw [hboth]
  exact congrArg (_ ++ ·) (List.append_nil _)

theorem columnEntries_get (report : Report) (row : Nat) (column : String) :
    columnEntries row column
        ((((report.rows.get? row).getD .empty).get? column).getD .empty) =
      cellEntries row column .error (report.get row column .error) ++
        cellEntries row column .warning (report.get row column .warning) := by
  rw [columnEntries_eq, OrderedMap.get?_getD_empty, OrderedMap.get?_getD_empty,
    OrderedMap.get?_getD_empty]
  rfl

theorem map_softened_cellEntries {column : String} (hcolumn : column ≠ name) (row : Nat)
    (severity : Severity) (messages : List String) :
    (cellEntries row column severity messages).map (ReportEntry.softened name) =
      cellEntries row column severity messages := by
  rw [cellEntries, List.map_map]
  exact List.map_congr_left fun message _ => if_neg fun heq => hcolumn (Option.some.inj heq)

namespace SoftenedIn

variable {report₁ report₂ : Report}

theorem columnEntries_eq_map (h : SoftenedIn name report₁ report₂) (row : Nat) (column : String) :
    columnEntries row column ((((report₂.rows.get? row).getD .empty).get? column).getD .empty) =
      (columnEntries row column
        ((((report₁.rows.get? row).getD .empty).get? column).getD .empty)).map
          (ReportEntry.softened name) := by
  rw [columnEntries_get, columnEntries_get, List.map_append]
  by_cases hcolumn : column = name
  · subst hcolumn
    rw [h.noErrors, ← h.texts, h.noWarnings]
    simp [cellEntries, ReportEntry.softened]
  · rw [map_softened_cellEntries hcolumn, map_softened_cellEntries hcolumn,
      h.others _ _ _ hcolumn, h.others _ _ _ hcolumn]

/-- The same messages are listed in the same order. -/
theorem messages (h : SoftenedIn name report₁ report₂) :
    report₂.messages = report₁.messages.map (ReportEntry.softened name) := by
  have hfile : (report₂.file.map FileMessage.entry) =
      (report₁.file.map FileMessage.entry).map (ReportEntry.softened name) := by
    rw [h.file, List.map_map]
    rfl
  rw [Report.messages, Report.messages, List.map_append, hfile, List.map_flatMap]
  congr 1
  refine OrderedMap.flatMap_entries_congr₂ rowEntries
    (fun row columns => (rowEntries row columns).map (ReportEntry.softened name)) fun row => ?_
  rw [map_getD_empty _ rfl, map_getD_empty _ rfl]
  simp only [rowEntries, List.map_flatMap]
  refine OrderedMap.flatMap_entries_congr₂ (columnEntries row)
    (fun column severities => (columnEntries row column severities).map
      (ReportEntry.softened name)) fun column => ?_
  rw [map_getD_empty _ rfl, map_getD_empty _ rfl]
  exact h.columnEntries_eq_map row column

end SoftenedIn

end Messages

end Report

namespace Outcome

/-- Two outcomes are the same, but the failures of one column are errors in the first one and
warnings in the second one.  So the second one is valid if and only if all errors of the first one
are about the column. -/
structure SoftenedIn (name : String) (outcome₁ outcome₂ : Outcome) : Prop where
  rows : outcome₁.rows = outcome₂.rows
  report : outcome₁.report.SoftenedIn name outcome₂.report
  messages : outcome₂.report.messages =
    outcome₁.report.messages.map (ReportEntry.softened name)
  valid : outcome₂.valid = true ↔
    ∀ entry ∈ outcome₁.report.messages, entry.severity = .error → entry.column = some name

/-- Two runs fail for the same reason, or have outcomes that are the same, but the failures of one
column are errors in the first one and warnings in the second one. -/
def ResultsSoftenedIn (name : String) : Except RunError Outcome → Except RunError Outcome → Prop
  | .ok outcome₁, .ok outcome₂ => outcome₁.SoftenedIn name outcome₂
  | .error e₁, .error e₂ => e₁ = e₂
  | _, _ => False

end Outcome

namespace Schema

variable (schema : Schema) (name : String)

/-- What two runs find amounts to the same when the failures of one column are rated as errors and
as warnings. -/
theorem softenedIn_outcomeOf (options : Options) (storage : Storage)
    (records : List (List String)) :
    ((schema.rated name .error).outcomeOf options storage records).report.SoftenedIn name
      ((schema.rated name .warning).outcomeOf options storage records).report := by
  simp only [outcomeOf_eq, judgeRun_rated]
  refine Report.SoftenedIn.note ?_ _ _
  have hpages := (Report.SoftenedIn.empty name).notePages (schema.headerLine + 1)
    (schema.judgeRun options storage records).1
  -- The settings are those of the schema on both sides, so both ask for records or neither does.
  change Report.SoftenedIn name (schema.noteEmpty records _) (schema.noteEmpty records _)
  unfold noteEmpty
  split
  · exact hpages
  · exact hpages.pushFile _ _

theorem rows_outcomeOf (options : Options) (storage : Storage) (records : List (List String)) :
    (schema.outcomeOf options storage records).rows = records.length := by
  rw [outcomeOf_eq, outcomeOfNotes]

theorem outcomeOf_softened (options : Options) (storage : Storage)
    (records : List (List String)) :
    ((schema.rated name .error).outcomeOf options storage records).SoftenedIn name
      ((schema.rated name .warning).outcomeOf options storage records) := by
  have hreport := schema.softenedIn_outcomeOf name options storage records
  refine ⟨?_, hreport, hreport.messages, ?_⟩
  · rw [rows_outcomeOf, rows_outcomeOf]
  · rw [outcomeOf_valid_iff, Report.count_eq_countP, hreport.messages, List.countP_eq_zero,
      List.forall_mem_map]
    refine forall₂_congr fun entry _ => ?_
    by_cases hcolumn : entry.column = some name
    · simp [ReportEntry.softened, hcolumn]
    · simp [ReportEntry.softened, hcolumn]

/-- The failures of one column are errors in one schema and warnings in another one, which is the
same otherwise. -/
structure DifferInWarning (name : String) (schema₁ schema₂ : Schema) : Prop where
  version : schema₁.version = schema₂.version
  settings : schema₁.settings = schema₂.settings
  slots : schema₁.slots = schema₂.slots
  columns : ∃ before column after, schema₁.columns = before ++ column :: after ∧
    column.name = name ∧ column.rule.settings.warning = false ∧
    schema₂.columns = before ++ { column with rule.settings.warning := true } :: after

end Schema

theorem ColumnDefinition.rated_of_name_ne {column : ColumnDefinition} {name : String}
    (h : column.name ≠ name) (severity : Severity) : column.rated name severity = column := by
  simp only [rated, if_neg h]

namespace Schema

variable {schema₁ schema₂ : Schema} {name : String}

/-- The columns are told apart by their keys, so no other column has the name of one of them. -/
theorem names_ne_of_keys {settings : FileSettings} {before after : List ColumnDefinition}
    {column : ColumnDefinition}
    (hkeys : ((before ++ column :: after).map fun c => settings.columnKey c.name).Nodup) :
    (∀ other ∈ before, other.name ≠ column.name) ∧
      ∀ other ∈ after, other.name ≠ column.name := by
  rw [List.map_append, List.map_cons, List.nodup_append, List.nodup_cons] at hkeys
  obtain ⟨-, ⟨hafter, -⟩, hbefore⟩ := hkeys
  constructor
  · intro other hother hname
    exact hbefore _ (List.mem_map_of_mem hother) _ List.mem_cons_self (by rw [hname])
  · intro other hother hname
    refine hafter ?_
    rw [← hname]
    exact List.mem_map_of_mem hother

theorem map_rated_of_names_ne {columns : List ColumnDefinition}
    (h : ∀ column ∈ columns, column.name ≠ name) (severity : Severity) :
    columns.map (·.rated name severity) = columns :=
  (List.map_congr_left fun column hcolumn =>
    ColumnDefinition.rated_of_name_ne (h column hcolumn) severity).trans (List.map_id columns)

/-- Both schemas are the first one with the failures of the column rated. -/
theorem DifferInWarning.eq_rated (h : DifferInWarning name schema₁ schema₂)
    (hkeys : schema₁.columnKeys.Nodup) :
    schema₁ = schema₁.rated name .error ∧ schema₂ = schema₁.rated name .warning := by
  obtain ⟨version, settings, columns₁, slots⟩ := schema₁
  obtain ⟨_, _, columns₂, _⟩ := schema₂
  obtain ⟨rfl, rfl, rfl, before, column, after, hcolumns₁, rfl, hwarning, hcolumns₂⟩ := h
  simp only at hcolumns₁ hcolumns₂
  subst hcolumns₁ hcolumns₂
  obtain ⟨hbefore, hafter⟩ := names_ne_of_keys hkeys
  -- Without the directive the failures of the column are errors already.
  have herror : column.rated column.name .error = column := by
    obtain ⟨columnName, checks, optional, matchIsFalse, ignoreCase, warning⟩ := column
    simp only at hwarning
    subst hwarning
    simp [ColumnDefinition.rated]
  have hsoftened : column.rated column.name .warning =
      { column with rule.settings.warning := true } := by
    simp [ColumnDefinition.rated]
  simp only [rated, List.map_append, List.map_cons, map_rated_of_names_ne hbefore,
    map_rated_of_names_ne hafter, herror, hsoftened, and_self]

/-- A directive for warnings changes how bad the failures of its column are and nothing else. -/
theorem validateRecords_softened {tree : Node} (h : ofTree tree = .ok schema₁)
    (hdiffer : DifferInWarning name schema₁ schema₂) (options : Options) (storage : Storage)
    (header : Option (List String)) (records : List (List String)) :
    Outcome.ResultsSoftenedIn name (schema₁.validateRecords options storage header records)
      (schema₂.validateRecords options storage header records) := by
  obtain ⟨herrors, hwarnings⟩ := hdiffer.eq_rated (nodup_columnKeys_of_ofTree h)
  have hnames : schema₁.columns.map (·.name) = schema₂.columns.map (·.name) := by
    rw [hwarnings, names_rated]
  have hfailed : ∀ e, Outcome.ResultsSoftenedIn name (.error e) (.error e) := fun _ => rfl
  have houtcome : Outcome.ResultsSoftenedIn name
      (.ok (schema₁.outcomeOf options storage records))
      (.ok (schema₂.outcomeOf options storage records)) := by
    have hsoftened := schema₁.outcomeOf_softened name options storage records
    rwa [← herrors, ← hwarnings] at hsoftened
  exact validateRecords_rel hdiffer.settings hnames hfailed houtcome header

/-- The tree of a schema whose column has some directives besides its check. -/
def treeOfUnique (directives : List Child) : Node :=
  let columnRule : Child := .node "column_rule" (.node "unique_expr" [] none :: directives) none
  ⟨"schema", [.node "prolog" [.token "version 1.0"] none,
    .node "body" [.node "column_definition" [.token "id:", columnRule] none] none], none⟩

/-- A value that comes twice leaves a run valid only if the failures of the column are warnings. -/
theorem validateRecords_softened_of_duplicate :
    let warnings : Child := .node "column_directives" [.node "warning_directive" [] none] none
    let result (schema : Schema) : Except RunError Outcome :=
      schema.validateRecords .initial MemoryStorage.empty.toStorage (some ["id"]) [["1"], ["1"]]
    ∃ schema₁ schema₂, ofTree (treeOfUnique []) = .ok schema₁ ∧
      ofTree (treeOfUnique [warnings]) = .ok schema₂ ∧ DifferInWarning "id" schema₁ schema₂ ∧
      (result schema₁).map Outcome.valid = .ok false ∧
      (result schema₂).map Outcome.valid = .ok true ∧
      Outcome.ResultsSoftenedIn "id" (result schema₁) (result schema₂) := by
  intro warnings result
  let checks : List Check := [.atom (.unique [] 0)]
  let schema₁ : Schema := ⟨.v10, .initial, [⟨"id", ⟨checks, .initial⟩⟩], 1⟩
  let schema₂ : Schema :=
    ⟨.v10, .initial, [⟨"id", ⟨checks, { ColumnSettings.initial with warning := true }⟩⟩], 1⟩
  have h₁ : ofTree (treeOfUnique []) = .ok schema₁ := by with_unfolding_all rfl
  have h₂ : ofTree (treeOfUnique [warnings]) = .ok schema₂ := by with_unfolding_all rfl
  have hdiffer : DifferInWarning "id" schema₁ schema₂ :=
    ⟨rfl, rfl, rfl, [], ⟨"id", ⟨checks, .initial⟩⟩, [], rfl, rfl, rfl, rfl⟩
  exact ⟨schema₁, schema₂, h₁, h₂, hdiffer, rfl, rfl, validateRecords_softened h₁ hdiffer _ _ _ _⟩

end Schema

end CsvSchema
