import CsvSchema.Run.Validation
import CsvSchema.Proofs.Independence.Completions

/-!
# Independence of columns

Editing the rule of one column changes nothing that a run says about the file or about any other
column.  The runs of both schemas are kept in step record by record, although the edit renumbers the
slots of later columns and the columns share what is remembered about files.

* `SchemaAlike.validateRecord` — one record keeps two runs in step;
* `SchemaAlike.outcomeOf` — so do all records, the check for an empty file and the end of the run;
* `Schema.validateRecords_agree_except` — the statement about two parse trees.
-/

namespace CsvSchema

open List (Forall₂)
open Stateful

namespace Outcome

/-- Two outcomes are the same except for what is said about one column. -/
structure AgreeExcept (name : String) (outcome₁ outcome₂ : Outcome) : Prop where
  rows : outcome₁.rows = outcome₂.rows
  report : outcome₁.report.AgreeExcept name outcome₂.report
  messages : outcome₁.report.messages.filter (·.column != some name) =
    outcome₂.report.messages.filter (·.column != some name)

/-- Two runs fail for the same reason, or have outcomes that are the same except for what is said
about one column. -/
def ResultsAgreeExcept (name : String) : Except RunError Outcome → Except RunError Outcome → Prop
  | .ok outcome₁, .ok outcome₂ => outcome₁.AgreeExcept name outcome₂
  | .error e₁, .error e₂ => e₁ = e₂
  | _, _ => False

end Outcome

namespace Schema

/-- A header is compared with the names of the columns only. -/
theorem checkNames_congr {columns₁ columns₂ : List ColumnDefinition}
    (h : columns₁.map (·.name) = columns₂.map (·.name)) (settings : FileSettings) (place : Nat)
    (header : List String) :
    checkNames settings place columns₁ header = checkNames settings place columns₂ header := by
  induction columns₁ generalizing columns₂ place header with
  | nil => rw [List.map_eq_nil_iff.1 h.symm]
  | cons column₁ rest₁ ih =>
      obtain ⟨column₂, rest₂, rfl, hname, hrest⟩ := List.map_eq_cons_iff.1 h.symm
      cases header with
      | nil => rfl
      | cons found names =>
          rw [checkNames, checkNames, hname, ih hrest.symm]

section Names

variable {schema₁ schema₂ : Schema} (hsettings : schema₁.settings = schema₂.settings)
  (hnames : schema₁.columns.map (·.name) = schema₂.columns.map (·.name))
include hsettings hnames

theorem columnKeys_congr : schema₁.columnKeys = schema₂.columnKeys := by
  have hkeys : ∀ schema : Schema,
      schema.columnKeys = (schema.columns.map (·.name)).map schema.settings.columnKey := by
    intro schema
    rw [columnKeys, List.map_map]
    rfl
  rw [hkeys, hkeys, hnames, hsettings]

/-- The start of a file is checked against the settings and the names of the columns. -/
theorem checkStart_congr (header : Option (List String))
    (records : List (Except RunError (List String))) :
    schema₁.checkStart header records = schema₂.checkStart header records := by
  have hlength : schema₁.columns.length = schema₂.columns.length := by
    simpa using congrArg List.length hnames
  have hcount : ∀ fields, schema₁.checkCount fields = schema₂.checkCount fields := by
    intro fields
    rw [checkCount, checkCount, expectedColumns, expectedColumns, hsettings, hlength]
  have hheader : ∀ fields, schema₁.checkHeader fields = schema₂.checkHeader fields := by
    intro fields
    rw [checkHeader, checkHeader, hcount, hsettings, checkNames_congr hnames]
  unfold checkStart
  split
  · exact hheader _
  · exact hcount _
  · rfl

/-- Two runs fail for the same reason, or both reach their outcomes: a relation that holds between
equal failures and between the outcomes holds between the results. -/
theorem validateRecords_rel {Same : Except RunError Outcome → Except RunError Outcome → Prop}
    {options : Options} {storage : Storage} {records : List (List String)}
    (hfailed : ∀ e, Same (.error e) (.error e))
    (houtcome : Same (.ok (schema₁.outcomeOf options storage records))
      (.ok (schema₂.outcomeOf options storage records)))
    (header : Option (List String)) :
    Same (schema₁.validateRecords options storage header records)
      (schema₂.validateRecords options storage header records) := by
  have hrun : ∀ header : Option (List String),
      Same (schema₁.run options storage header (records.map .ok))
        (schema₂.run options storage header (records.map .ok)) := by
    intro header
    rw [run_map_ok, run_map_ok, checkStart_congr hsettings hnames]
    cases schema₂.checkStart header (records.map .ok) with
    | error e => exact hfailed e
    | ok _ => exact houtcome
  simp only [validateRecords, hsettings]
  split
  · exact hrun none
  · cases header with
    | none => exact hfailed .missingHeader
    | some header => exact hrun (some header)

end Names

end Schema

namespace SchemaAlike

variable {name : String} {f₁ f₂ : Nat → Nat} {schema₁ schema₂ : Schema}
  (h : SchemaAlike name f₁ f₂ schema₁ schema₂)
include h

section Start

theorem names : schema₁.columns.map (·.name) = schema₂.columns.map (·.name) := by
  have hcolumns := h.columns
  generalize schema₁.columns = columns₁ at hcolumns
  generalize schema₂.columns = columns₂ at hcolumns
  induction hcolumns with
  | nil => rfl
  | cons hcolumn _ ih =>
      rw [List.map_cons, List.map_cons, ih]
      cases hcolumn with
      | renamed column => rfl
      | edited _ _ => rfl

theorem columnKeys : schema₁.columnKeys = schema₂.columnKeys :=
  Schema.columnKeys_congr h.settings h.names

/-- The start of a file is accepted or refused in the same way. -/
theorem checkStart (header : Option (List String))
    (records : List (Except RunError (List String))) :
    schema₁.checkStart header records = schema₂.checkStart header records :=
  Schema.checkStart_congr h.settings h.names header records

end Start

section Runs

variable {storage : Storage}

/-- A file without records is refused in the same way. -/
theorem checkEmpty (records : List (List String)) {session₁ session₂ : Session}
    (hsessions : Session.InStep storage name f₁ f₂ session₁ session₂) :
    Session.InStep storage name f₁ f₂ (schema₁.checkEmpty records session₁).2
      (schema₂.checkEmpty records session₂).2 := by
  simp only [Schema.checkEmpty, h.settings]
  split
  · exact { hsessions with report := hsessions.report.pushFile .error Schema.noRecordsText }
  · exact hsessions

variable (hstorage : storage.ByParts) (h₁ : StrictMono f₁) (h₂ : StrictMono f₂)
include hstorage h₁ h₂

/-- One record keeps two runs in step. -/
theorem validateRecord {environment : Environment} (henvironment : environment.storage = storage)
    (record : List String) {session₁ session₂ : Session}
    (hsessions : Session.InStep storage name f₁ f₂ session₁ session₂) :
    Session.InStep storage name f₁ f₂ (schema₁.validateRecord environment record session₁).2
      (schema₂.validateRecord environment record session₂).2 := by
  have hadvanced : Session.InStep storage name f₁ f₂ (Session.advance session₁).2
      (Session.advance session₂).2 :=
    { hsessions with line := congrArg (· + 1) hsessions.line }
  simp only [Schema.validateRecord, Stateful.bind_apply, Stateful.pure_apply, h.columnKeys]
  exact hadvanced.validateColumns hstorage henvironment _ h₁.injective h₂.injective h.columns

/-- All records keep two runs in step. -/
theorem validateAll {environment : Environment} (henvironment : environment.storage = storage)
    (records : List (List String)) {session₁ session₂ : Session}
    (hsessions : Session.InStep storage name f₁ f₂ session₁ session₂) :
    Session.InStep storage name f₁ f₂ (schema₁.validateAll environment records session₁).2
      (schema₂.validateAll environment records session₂).2 := by
  simp only [Schema.validateAll, Stateful.bind_apply, Stateful.pure_apply]
  induction records generalizing session₁ session₂ with
  | nil => exact hsessions
  | cons record rest ih =>
      rw [Stateful.mapM_cons_apply, Stateful.mapM_cons_apply]
      exact ih (h.validateRecord hstorage h₁ h₂ henvironment record hsessions)

/-- Whole runs say the same, except about the edited column. -/
theorem outcomeOf (options : Options) (records : List (List String)) :
    (schema₁.outcomeOf options storage records).AgreeExcept name
      (schema₂.outcomeOf options storage records) := by
  have hstart : Session.InStep storage name f₁ f₂ (schema₁.firstSession options)
      (schema₂.firstSession options) := by
    refine ⟨?_, .refl name _, Memory.agree_start storage name f₁ f₂ options.memoize⟩
    simp only [Schema.firstSession, h.settings]
  have hreport : (schema₁.outcomeOf options storage records).report.AgreeExcept name
      (schema₂.outcomeOf options storage records).report := by
    have henvironment : Environment.storage ⟨schema₂.settings, options, storage⟩ = storage := rfl
    -- The records, the check for an empty file and the end of the run, one after the other.
    have hrecords := h.validateAll hstorage h₁ h₂ henvironment records hstart
    have hchecked := h.checkEmpty records hrecords
    simp only [Schema.outcomeOf, Schema.runRecords, Stateful.bind_apply, Stateful.pure_apply,
      h.settings]
    exact Session.InStep.finish hstorage h₁ h₂ hchecked
  exact ⟨rfl, hreport, hreport.messages⟩

/-- Runs from a header, if there is one, and records that can be read. -/
theorem run (options : Options) (header : Option (List String)) (records : List (List String)) :
    Outcome.ResultsAgreeExcept name
      (schema₁.run options storage header (records.map .ok))
      (schema₂.run options storage header (records.map .ok)) := by
  rw [Schema.run_map_ok, Schema.run_map_ok, h.checkStart]
  cases schema₂.checkStart header (records.map .ok) with
  | error e => rfl
  | ok _ => exact h.outcomeOf hstorage h₁ h₂ options records

end Runs

end SchemaAlike

namespace Schema

/-- Two trees that differ only in the rule of one column, and that both build, fail on a file in the
same way or have outcomes that say the same about the file and about every other column. -/
theorem validateRecords_agree_except {name : String} {tree₁ tree₂ : Node} {schema₁ schema₂ : Schema}
    (hedit : SameExceptRule name tree₁.toChild tree₂.toChild) (h₁ : ofTree tree₁ = .ok schema₁)
    (h₂ : ofTree tree₂ = .ok schema₂) (options : Options) (storage : MemoryStorage)
    (header : Option (List String)) (records : List (List String)) :
    Outcome.ResultsAgreeExcept name
      (schema₁.validateRecords options storage.toStorage header records)
      (schema₂.validateRecords options storage.toStorage header records) := by
  obtain ⟨start, width₁, width₂, halike⟩ := schemaAlike_of_sameExceptRule hedit h₁ h₂
  have hrun := fun header => halike.run storage.byParts (strictMono_gap start width₁)
    (strictMono_gap start width₂) options header records
  unfold validateRecords
  rw [halike.settings]
  split
  · exact hrun none
  · cases header with
    | none => rfl
    | some header => exact hrun (some header)

/-- The tree of a schema with two columns: a rule for the first one, while the second one has to be
unique. -/
def treeOfTwoColumns (expression : String) : Node :=
  let column (name expression : String) : Child :=
    .node "column_definition"
      [.token name, .node "column_rule" [.node expression [] none] none] none
  ⟨"schema", [.node "prolog" [.token "version 1.0"] none,
    .node "body" [column "a:" expression, column "b:" "unique_expr"] none], none⟩

/-- Two rules that take different numbers of slots and judge different lines, with the same message
about the other column. -/
theorem validateRecords_agree_except_of_two_columns :
    let validate (schema : Schema) :=
      schema.validateRecords .initial MemoryStorage.empty.toStorage (some ["a", "b"])
        [["x", "y"], ["", "y"]]
    ∃ schema₁ schema₂ outcome₁ outcome₂,
      ofTree (treeOfTwoColumns "not_empty_expr") = .ok schema₁ ∧
      ofTree (treeOfTwoColumns "unique_expr") = .ok schema₂ ∧
      schema₁.slots < schema₂.slots ∧
      validate schema₁ = .ok outcome₁ ∧ validate schema₂ = .ok outcome₂ ∧
      outcome₁.report.get 3 "a" .error ≠ outcome₂.report.get 3 "a" .error ∧
      outcome₁.report.get 3 "b" .error ≠ [] ∧
      outcome₁.AgreeExcept "a" outcome₂ := by
  intro validate
  -- Below the body the first of two columns is edited, behind the prolog.
  have hdeclares : DeclaresColumn "a" [.token "a:"] := ⟨1, 0, "a:", 0, rfl, rfl⟩
  have hedit : SameExceptRule "a" (treeOfTwoColumns "not_empty_expr").toChild
      (treeOfTwoColumns "unique_expr").toChild :=
    .within [_] [] (.within [] [_] (.column hdeclares))
  have h₁ : ofTree (treeOfTwoColumns "not_empty_expr") = .ok ⟨.v10, .initial,
      [⟨"a", ⟨[.atom (.value .notEmpty)], .initial⟩⟩, ⟨"b", ⟨[.atom (.unique [] 0)], .initial⟩⟩],
      1⟩ := by with_unfolding_all rfl
  have h₂ : ofTree (treeOfTwoColumns "unique_expr") = .ok ⟨.v10, .initial,
      [⟨"a", ⟨[.atom (.unique [] 0)], .initial⟩⟩, ⟨"b", ⟨[.atom (.unique [] 1)], .initial⟩⟩],
      2⟩ := by with_unfolding_all rfl
  have hagree := validateRecords_agree_except hedit h₁ h₂ .initial MemoryStorage.empty
    (some ["a", "b"]) [["x", "y"], ["", "y"]]
  exact ⟨_, _, _, _, h₁, h₂, by decide, rfl, rfl, by decide, by decide, hagree⟩

end Schema

end CsvSchema
