import CsvSchema.Reduction.Basic
import CsvSchema.Storage.Memory
import CsvSchema.Proofs.Queries
import CsvSchema.Proofs.Evaluation
import CsvSchema.Proofs.Outcome
import CsvSchema.Proofs.Slots.Parts
import CsvSchema.Proofs.Notes.Reports

/-!
# Independence of rows

A check without a slot asks about files and nothing else, and as long as the files stay the same it
gets the same answers.  So a schema without slots has the same to say about a record wherever the
record stands, `Schema.judgeRun_of_isStateless`.  What is reported about a row depends on its record
alone, and the numbers of messages do not depend on the order of the records,
`Schema.stateless_rows_independent`.
-/

namespace CsvSchema

open Memory Stateful

/-- No check in a schema keeps a slot: none of them is `unique`, `identical` or `integrityCheck`. -/
def Schema.IsStateless (schema : Schema) : Prop := columnSlots schema.columns = []

section Questions

variable {storage : Storage}

theorem composes_isQuery : Composes fun action => IsQuery storage action :=
  ⟨IsQuery.pure, IsQuery.bind⟩

theorem tells_mapM {α β : Type} {f : α → StateM Memory β} {answer : α → β}
    (h : ∀ item, Tells storage (f item) (answer item)) (items : List α) :
    Tells storage (items.mapM f) (items.map answer) := by
  induction items with
  | nil => exact .pure []
  | cons item rest ih =>
      rw [List.mapM_cons]
      exact (h item).bind (ih.bind (.pure _))

variable (hstorage : storage.ByParts)
include hstorage

/-- An atomic check without a slot. -/
theorem isQuery_atom {scope : Scope} (hscope : scope.environment.storage = storage) {atom : Atom}
    (hslots : atom.slots = []) (value : String) : IsQuery storage (atom.evaluate scope value) := by
  cases atom with
  | unique columns slot => simp [Atom.slots] at hslots
  | identical slot => simp [Atom.slots] at hslots
  | integrity folder subfolder rule slot => simp [Atom.slots] at hslots
  | fileExists folder => exact isQuery_findFile hstorage hscope value folder
  | checksum file algorithm => exact isQuery_findChecksum hstorage hscope value file algorithm
  | fileCount folder => exact isQuery_findCount hstorage hscope value folder
  | _ => exact .pure _

theorem isQuery_evaluate {scope : Scope} (hscope : scope.environment.storage = storage)
    {check : Check} (hslots : check.slots = []) (value : String) :
    IsQuery storage (check.evaluate scope value) :=
  composes_evaluate (p := fun _ => False) composes_isQuery
    (fun _ hatom value =>
      isQuery_atom hstorage hscope (List.eq_nil_iff_forall_not_mem.2 hatom) value)
    check (by simp [hslots]) value

/-- Without slots a record is judged in the same way from any memory. -/
theorem isQuery_judgeRecord {environment : Environment}
    (henvironment : environment.storage = storage) {schema : Schema}
    (hstateless : schema.IsStateless) (record : List String) :
    IsQuery storage (schema.judgeRecord environment record) := by
  refine composes_judgeColumns composes_isQuery fun column hcolumn check hcheck value => ?_
  have hrule : checkSlots column.rule.checks = [] :=
    List.flatMap_eq_nil_iff.1 hstateless column hcolumn
  rw [checkSlots_eq_flatMap, List.flatMap_eq_nil_iff] at hrule
  exact isQuery_evaluate hstorage henvironment (hrule check hcheck) value

end Questions

namespace Schema

variable (schema : Schema)

/-- What a schema has to say about a record before it has seen any other. -/
def judgeFirst (options : Options) (storage : Storage) (record : List String) : List Note :=
  (schema.judgeRecord ⟨schema.settings, options, storage⟩ record (.start options.memoize)).1

variable {schema}

/-- A schema without slots judges each record as if it were the first, and has nothing to say at the
end. -/
theorem judgeRun_of_isStateless (hstateless : schema.IsStateless) (options : Options)
    {storage : Storage} (hstorage : storage.ByParts) (records : List (List String)) :
    schema.judgeRun options storage records =
      (records.map (schema.judgeFirst options storage), []) := by
  have hstart := Probes.truthful_start storage options.memoize
  have hrecord : ∀ record, Tells storage
      (schema.judgeRecord ⟨schema.settings, options, storage⟩ record)
      (schema.judgeFirst options storage record) := by
    intro record
    obtain ⟨notes, hnotes⟩ : IsQuery storage
        (schema.judgeRecord ⟨schema.settings, options, storage⟩ record) :=
      isQuery_judgeRecord hstorage rfl hstateless record
    have hfirst := (hnotes (.start options.memoize) hstart).1
    rw [judgeFirst, hfirst]
    exact hnotes
  obtain ⟨hpages, hslots, -⟩ := tells_mapM hrecord records (.start options.memoize) hstart
  -- The slots are as empty as at the start, so there are no references to report.
  have hend : ∀ memory : Memory, memory.slots = .empty → (judgeEnd storage memory).1 = [] := by
    intro memory hempty
    simp only [judgeEnd, takeReferences, bind_apply, hempty]
    rfl
  rw [judgeRun]
  exact Prod.ext hpages (hend _ hslots)

/-- What the outcome of a run says about a row with a record. -/
theorem row?_outcomeOf_of_isStateless (hstateless : schema.IsStateless) (options : Options)
    {storage : Storage} (hstorage : storage.ByParts) (records : List (List String)) (i : Nat) :
    (schema.outcomeOf options storage records).report.row? (schema.headerLine + 1 + i) =
      (Report.empty.note (schema.headerLine + 1 + i)
        ((records[i]?.map (schema.judgeFirst options storage)).getD [])).row?
          (schema.headerLine + 1 + i) := by
  have hempty : ∀ report : Report, (schema.noteEmpty records report).row? = report.row? := by
    intro report
    unfold noteEmpty
    split <;> rfl
  rw [outcomeOf_eq, judgeRun_of_isStateless hstateless options hstorage, outcomeOfNotes,
    Report.note_nil, hempty, Report.row?_notePages, List.getElem?_map]

theorem count_outcomeOf_of_isStateless (hstateless : schema.IsStateless) (options : Options)
    {storage : Storage} (hstorage : storage.ByParts) (records : List (List String))
    (severity : Severity) :
    (schema.outcomeOf options storage records).report.count severity =
      (schema.noteEmpty records .empty).count severity +
        (records.flatMap (schema.judgeFirst options storage)).countP (·.severity == severity) := by
  rw [outcomeOf_eq, judgeRun_of_isStateless hstateless options hstorage]
  simp only [outcomeOfNotes, Report.note_nil, List.flatMap_def, noteEmpty]
  split
  · rw [Report.count_notePages]
  · rw [Report.count_pushFile, Report.count_pushFile, Report.count_notePages]
    omega

/-- Records in another order get the same verdict and the same numbers of messages. -/
theorem outcomeOf_perm_of_isStateless (hstateless : schema.IsStateless) (options : Options)
    {storage : Storage} (hstorage : storage.ByParts) {records₁ records₂ : List (List String)}
    (hperm : records₁.Perm records₂) :
    (schema.outcomeOf options storage records₁).valid =
        (schema.outcomeOf options storage records₂).valid ∧
      ∀ severity, (schema.outcomeOf options storage records₁).report.count severity =
        (schema.outcomeOf options storage records₂).report.count severity := by
  have hcount : ∀ severity, (schema.outcomeOf options storage records₁).report.count severity =
      (schema.outcomeOf options storage records₂).report.count severity := by
    intro severity
    have hpermits : schema.permits records₁ = schema.permits records₂ := by
      rw [permits, permits, hperm.isEmpty_eq]
    rw [count_outcomeOf_of_isStateless hstateless options hstorage,
      count_outcomeOf_of_isStateless hstateless options hstorage,
      (hperm.flatMap_right _).countP_eq, noteEmpty, noteEmpty, hpermits]
  refine ⟨?_, hcount⟩
  rw [Bool.eq_iff_iff, outcomeOf_valid_iff, outcomeOf_valid_iff, hcount]

/-- A file is read as a header and records unless it is without header. -/
theorem validateFile_header (hheader : schema.settings.noHeader = false) (options : Options)
    (storage : Storage) (header : List String) (records : List (List String)) :
    schema.validateFile options storage ((header :: records).map .ok) =
      schema.validateRecords options storage (some header) records := by
  simp [validateFile, validateRecords, hheader]

theorem validateRecords_of_accepted (hheader : schema.settings.noHeader = false)
    {header : List String} (haccepted : schema.checkHeader header = .ok ()) (options : Options)
    (storage : Storage) (records : List (List String)) :
    schema.validateRecords options storage (some header) records =
      .ok (schema.outcomeOf options storage records) := by
  have hstart : schema.checkStart (some header) (records.map .ok) = .ok () := haccepted
  simp only [validateRecords, hheader, Bool.false_eq_true, if_false, run_map_ok, hstart]
  rfl

/-- Under a header that a schema without slots accepts, every list of records has an outcome, read
from a file or not.  What it says about a row is the same for any two lists with the same record
there, and lists that are permutations of each other get the same verdict and the same numbers of
messages. -/
theorem stateless_rows_independent (hheader : schema.settings.noHeader = false)
    (hstateless : schema.IsStateless) (options : Options) (storage : MemoryStorage)
    {header : List String} (haccepted : schema.checkHeader header = .ok ())
    (records₁ records₂ : List (List String)) :
    ∃ outcome₁ outcome₂,
      schema.validateRecords options storage.toStorage (some header) records₁ = .ok outcome₁ ∧
      schema.validateRecords options storage.toStorage (some header) records₂ = .ok outcome₂ ∧
      schema.validateFile options storage.toStorage ((header :: records₁).map .ok) =
        .ok outcome₁ ∧
      schema.validateFile options storage.toStorage ((header :: records₂).map .ok) =
        .ok outcome₂ ∧
      (∀ i, records₁[i]? = records₂[i]? →
        outcome₁.report.row? (i + 2) = outcome₂.report.row? (i + 2) ∧
        outcome₁.report.messages.filter (·.row == some (i + 2)) =
          outcome₂.report.messages.filter (·.row == some (i + 2))) ∧
      (records₁.Perm records₂ → outcome₁.valid = outcome₂.valid ∧
        ∀ severity, outcome₁.report.count severity = outcome₂.report.count severity) := by
  have hrecords := fun records =>
    validateRecords_of_accepted hheader haccepted options storage.toStorage records
  have hfile := fun records =>
    (validateFile_header hheader options storage.toStorage header records).trans (hrecords records)
  refine ⟨_, _, hrecords records₁, hrecords records₂, hfile records₁, hfile records₂,
    fun i hsame => ?_, fun hperm => ?_⟩
  · -- The header is the first line, so the records start at the second one.
    have hline : schema.headerLine + 1 + i = i + 2 := by
      rw [headerLine, hheader, if_neg Bool.false_ne_true]
      omega
    have hrow : (schema.outcomeOf options storage.toStorage records₁).report.row? (i + 2) =
        (schema.outcomeOf options storage.toStorage records₂).report.row? (i + 2) := by
      rw [← hline, row?_outcomeOf_of_isStateless hstateless options storage.byParts,
        row?_outcomeOf_of_isStateless hstateless options storage.byParts, hsame]
    exact ⟨hrow, Report.messages_filter_row_congr hrow⟩
  · exact outcomeOf_perm_of_isStateless hstateless options storage.byParts hperm

/-- The tree of a schema with one column, by the tag of its rule. -/
def treeOfOneColumn (expression : String) : Node :=
  ⟨"schema", [.node "prolog" [.token "version 1.0"] none,
    .node "body" [.node "column_definition"
      [.token "a:", .node "column_rule" [.node expression [] none] none] none] none], none⟩

/-- Two orders of three records, the one in the middle of which has an empty field. -/
theorem stateless_rows_independent_of_empty_field :
    let records₁ := [["x"], [""], ["y"]]
    let records₂ := [["y"], [""], ["x"]]
    let validate (schema : Schema) :=
      schema.validateRecords .initial MemoryStorage.empty.toStorage (some ["a"])
    ∃ schema outcome₁ outcome₂, ofTree (treeOfOneColumn "not_empty_expr") = .ok schema ∧
      schema.settings.noHeader = false ∧ schema.IsStateless ∧ schema.checkHeader ["a"] = .ok () ∧
      validate schema records₁ = .ok outcome₁ ∧ validate schema records₂ = .ok outcome₂ ∧
      records₁[1]? = records₂[1]? ∧ records₁.Perm records₂ ∧
      outcome₁.report.get 3 "a" .error ≠ [] ∧
      outcome₁.report.row? 3 = outcome₂.report.row? 3 ∧ outcome₁.valid = outcome₂.valid ∧
      outcome₁.report.count .error = outcome₂.report.count .error := by
  intro records₁ records₂ validate
  let schema : Schema := ⟨.v10, .initial, [⟨"a", ⟨[.atom (.value .notEmpty)], .initial⟩⟩], 0⟩
  have hbuilt : ofTree (treeOfOneColumn "not_empty_expr") = .ok schema := by
    with_unfolding_all rfl
  have hperm : records₁.Perm records₂ := by decide
  obtain ⟨outcome₁, outcome₂, h₁, h₂, -, -, hrows, hcounts⟩ :=
    stateless_rows_independent (show schema.settings.noHeader = false from rfl) rfl .initial
      MemoryStorage.empty (show schema.checkHeader ["a"] = .ok () from rfl) records₁ records₂
  have hreported : outcome₁.report.get 3 "a" .error ≠ [] := by
    rw [← Except.ok.inj h₁]
    decide
  exact ⟨schema, outcome₁, outcome₂, hbuilt, rfl, rfl, by rfl, h₁, h₂, rfl, hperm, hreported,
    (hrows 1 rfl).1, (hcounts hperm).1, (hcounts hperm).2 .error⟩

end Schema

end CsvSchema
