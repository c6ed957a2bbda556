import Mathlib.Logic.Basic
import Mathlib.Tactic.ByContra
import CsvSchema.Reduction.Basic
import CsvSchema.Proofs.WellFormed.Documents
import CsvSchema.Proofs.Slots.Numbering
import CsvSchema.Proofs.Notes.Reports

/-!
# Columns with one check that remembers

A column whose rule is one atomic check with a slot.  The other columns have other slots, and their
references and notes are about other columns.  So what is said about the records in the column
depends on what the check makes of its slot alone: an account of the slot that one record carries
on, `AtomColumn.Account`, tells of which records of a run the column complains,
`AtomColumn.Account.reports_iff`.
-/

namespace CsvSchema

open Memory Stateful

/-- An atomic check, bare or as a single expression of the column itself. -/
inductive Check.Is (atom : Atom) : Check → Prop
  | bare : Check.Is atom (.atom atom)
  | single {check : Check} (h : Check.Is atom check) : Check.Is atom (.single none check)

theorem Check.Is.slots_eq {atom : Atom} {check : Check} (h : check.Is atom) :
    check.slots = atom.slots := by
  induction h with
  | bare => rw [Check.slots]
  | single _ ih => rw [Check.slots, ih]

theorem Check.Is.evaluate_eq {atom : Atom} {check : Check} (h : check.Is atom) (scope : Scope)
    (value : String) : check.evaluate scope value = (Check.atom atom).evaluate scope value := by
  induction h with
  | bare => rfl
  | single _ ih => rw [← ih, Check.evaluate]

/-- A column of a schema whose rule is one atomic check, which is not meant to fail. -/
structure AtomColumn (schema : Schema) (atom : Atom) where
  column : ColumnDefinition
  mem : column ∈ schema.columns
  rule : ∃ check, column.rule.checks = [check] ∧ check.Is atom
  plain : column.rule.settings.matchIsFalse = false

namespace Memory

/-- No references in a memory belong to a column. -/
def Foreign (name : String) (memory : Memory) : Prop :=
  ∀ slot references, memory.slots.get? slot = some (.references references) →
    references.column ≠ name

variable {memory : Memory} {name : String}

theorem keeps_foreign_useSlot {α : Type} (slot : Nat) {use : Option SlotMemory → α × SlotMemory}
    (huse : ∀ content references, (use content).2 = .references references →
      (∀ known, content = some (.references known) → known.column ≠ name) →
        references.column ≠ name) :
    Keeps (Foreign name) (useSlot slot use) := by
  intro memory h x references hx
  rw [get?_useSlot] at hx
  split at hx
  · exact huse _ references (Option.some.inj hx) (h slot)
  · exact h x references hx

theorem keeps_foreign_isNew (slot : Nat) (key : List String) :
    Keeps (Foreign name) (isNew slot key) := by
  refine keeps_foreign_useSlot slot fun content references h _ => ?_
  split at h
  · split at h <;> cases h
  · cases h

theorem keeps_foreign_firstValue (slot : Nat) (value : String) :
    Keeps (Foreign name) (firstValue slot value) := by
  refine keeps_foreign_useSlot slot fun content references h _ => ?_
  split at h <;> cases h

theorem exists_slot_of_mem_takeReferences {references : References}
    (h : references ∈ (takeReferences memory).1) :
    ∃ slot, memory.slots.get? slot = some (.references references) := by
  obtain ⟨⟨slot, content⟩, hentry, hcontent⟩ := List.mem_filterMap.1 h
  have hslot := (OrderedMap.get?_eq_some_iff memory.slots slot content).2 hentry
  cases content with
  | references known =>
      cases hcontent
      exact ⟨slot, hslot⟩
  | _ => cases hcontent

/-- Checks of another column make no references of this one. -/
theorem keeps_foreign_evaluate {scope : Scope} (hscope : scope.column ≠ name) (check : Check)
    (value : String) : Keeps (Foreign name) (check.evaluate scope value) := by
  have hrefer : ∀ slot (initial : References) root path, initial.column = scope.column →
      Keeps (Foreign name) (refer slot initial root path) := by
    intro slot initial root path hinitial
    refine keeps_foreign_useSlot slot fun content references h hcontent => ?_
    cases h
    split
    · rename_i known
      exact hcontent known rfl
    · exact hinitial ▸ hscope
  exact keeps_evaluate (p := fun _ => True)
    (composes_atom (composes_keeps _) (fun _ _ h => h)
      (fun slot key _ => keeps_foreign_isNew slot key)
      (fun slot value _ => keeps_foreign_firstValue slot value)
      (fun slot initial root path _ => hrefer slot initial root path))
    check (fun _ _ => trivial) value

end Memory

namespace AtomColumn

variable {schema : Schema} {atom : Atom}

section Columns

variable (c : AtomColumn schema atom)

/-- The value with which a record is evaluated: its field, unless the record lacks it or it is
skipped because it is empty. -/
def value? (record : List String) : Option String :=
  ((Row.ofFields schema.columnKeys record).get?
    (schema.settings.columnKey c.column.name)).filter
      fun value => !(c.column.rule.settings.optional && value.isEmpty)

theorem get?_of_value? {record : List String} {value : String} (h : c.value? record = some value) :
    (Row.ofFields schema.columnKeys record).get? (schema.settings.columnKey c.column.name) =
        some value ∧
      (c.column.rule.settings.optional && value.isEmpty) = false := by
  obtain ⟨hfield, hskip⟩ := Option.filter_eq_some_iff.1 h
  exact ⟨hfield, (Bool.not_eq_true' _).mp hskip⟩

/-- The other columns have other names and other slots. -/
theorem exists_others {tree : Node} (h : Schema.ofTree tree = .ok schema) {slot : Nat}
    (hslot : slot ∈ atom.slots) :
    ∃ before after, schema.columns = before ++ c.column :: after ∧
      ∀ column ∈ before ++ after, column.name ≠ c.column.name ∧ slot ∉ column.rule.slots := by
  obtain ⟨next, hpart⟩ := Schema.ofTree_eq_ok.1 h
  have hkeys : schema.columnKeys.Nodup := Schema.nodup_columnKeys_of_ofTree h
  have hslots : (columnSlots schema.columns).Nodup := by
    have hincreasing := (reduceChild_numbered hpart).increasing
    rw [List.flatMap_singleton] at hincreasing
    exact hincreasing.imp (fun hlt => Nat.ne_of_lt hlt)
  obtain ⟨check, hchecks, hcheck⟩ := c.rule
  have hown : slot ∈ c.column.rule.slots := by
    simpa [ColumnRule.slots, hchecks, checkSlots, hcheck.slots_eq] using hslot
  obtain ⟨before, after, hcolumns⟩ := List.append_of_mem c.mem
  refine ⟨before, after, hcolumns, fun column hcolumn => ⟨fun hname => ?_, fun hother => ?_⟩⟩
  · -- Two columns of the same name would have the same key.
    have hperm : schema.columnKeys.Perm (schema.settings.columnKey c.column.name ::
        (before ++ after).map fun column => schema.settings.columnKey column.name) := by
      rw [Schema.columnKeys, hcolumns]
      exact List.perm_middle.map _
    exact (List.nodup_cons.1 (hperm.nodup hkeys)).1
      (List.mem_map.2 ⟨column, hcolumn, by rw [hname]⟩)
  · -- A slot of two columns would be among all slots twice.
    have hperm : (columnSlots schema.columns).Perm
        (c.column.rule.slots ++ columnSlots (before ++ after)) := by
      rw [hcolumns]
      exact (List.perm_middle.flatMap_right _)
    exact (List.nodup_append.1 (hperm.nodup hslots)).2.2 _ hown _
      (List.mem_flatMap.2 ⟨column, hcolumn, hother⟩) rfl

/-- The rule, evaluated for a value. -/
theorem judge_eq (options : Options) (storage : Storage) {record : List String} {value : String}
    (hvalue : c.value? record = some value) (memory : Memory) :
    let environment : Environment := ⟨schema.settings, options, storage⟩
    let row := Row.ofFields schema.columnKeys record
    let found := atom.evaluate (c.column.scope environment row) value memory
    ∃ check, c.column.judge environment row memory =
      (c.column.verdictNotes check value (found.1.verdict (.atom atom) value), found.2) := by
  obtain ⟨hfield, hskip⟩ := c.get?_of_value? hvalue
  obtain ⟨check, hchecks, hcheck⟩ := c.rule
  refine ⟨check, ?_⟩
  simp only [ColumnDefinition.judge, hfield, hskip, Bool.false_eq_true, if_false, hchecks,
    ColumnDefinition.judgeCheck, hcheck.evaluate_eq, bind_apply, mapM_cons_apply, mapM_nil_apply,
    pure_apply, Check.evaluate, List.flatten_cons, List.flatten_nil, List.append_nil]

/-- A record that the column does not look at changes nothing. -/
theorem judge_eq_of_value?_eq_none {environment : Environment}
    (henvironment : environment.settings = schema.settings) {record : List String}
    (hvalue : c.value? record = none) (memory : Memory) :
    (c.column.judge environment (Row.ofFields schema.columnKeys record) memory).2 = memory := by
  unfold ColumnDefinition.judge
  rw [henvironment]
  cases hfield : (Row.ofFields schema.columnKeys record).get?
      (schema.settings.columnKey c.column.name) with
  | none => rfl
  | some value =>
      have hskip : (c.column.rule.settings.optional && value.isEmpty) = true := by
        simpa [value?, hfield] using hvalue
      simp only [hskip, if_true]
      rfl

end Columns

section Records

variable (c : AtomColumn schema atom) (options : Options) (storage : Storage)

/-- What a check with a slot makes of the records that the column looks at: what is true of the slot
after some records, and of which records it complains after them. -/
structure Account (slot : Nat) (Holds : List (List String) → Memory → Prop)
    (Fails : List (List String) → List String → Prop) : Prop where
  owns : slot ∈ atom.slots
  start : ∀ memoize, Holds [] (.start memoize)
  /-- Nothing but the slot matters. -/
  congr : ∀ {earlier : List (List String)} {memory₁ memory₂ : Memory},
    memory₂.slots.get? slot = memory₁.slots.get? slot → Holds earlier memory₁ →
      Holds earlier memory₂
  passOver : ∀ {earlier : List (List String)} {record : List String} {memory : Memory},
    c.value? record = none → Holds earlier memory → Holds (earlier ++ [record]) memory
  evaluate : ∀ {earlier : List (List String)} {record : List String} {value : String}
    {memory : Memory}, c.value? record = some value → Holds earlier memory →
      let found := atom.evaluate (c.column.scope ⟨schema.settings, options, storage⟩
        (Row.ofFields schema.columnKeys record)) value memory
      Holds (earlier ++ [record]) found.2 ∧ (found.1 ≠ .passed ↔ Fails earlier record)
  foreign : ∀ scope value, Keeps (Foreign c.column.name) (atom.evaluate scope value)

/-- Where a run stands after some records: the slot is as it should be, and no references belong to
the column. -/
structure Midway (Holds : List (List String) → Memory → Prop) (earlier : List (List String))
    (memory : Memory) : Prop where
  holds : Holds earlier memory
  foreign : Foreign c.column.name memory

/-- The notes about a record complain of the column if and only if the record fails, in one way. -/
def Complains (Fails : List (List String) → List String → Prop) (earlier : List (List String))
    (record : List String) (notes : List Note) : Prop :=
  ∀ severity, (∃ note ∈ notes, note.column = c.column.name ∧ note.severity = severity) ↔
    severity = c.column.rule.settings.severity ∧ Fails earlier record

variable {c options storage} {slot : Nat} {Holds : List (List String) → Memory → Prop}
  {Fails : List (List String) → List String → Prop} {earlier : List (List String)}
  {record : List String} {memory : Memory}

/-- A column whose notes are not empty complains. -/
theorem complains_of_owns {notes : List Note} (howns : ∀ note ∈ notes, c.column.Owns note)
    (hfails : notes ≠ [] ↔ Fails earlier record) : c.Complains Fails earlier record notes := by
  intro severity
  rw [← hfails]
  constructor
  · rintro ⟨note, hnote, -, hseverity⟩
    exact ⟨hseverity.symm.trans (howns note hnote).2, List.ne_nil_of_mem hnote⟩
  · rintro ⟨rfl, hne⟩
    obtain ⟨note, hnote⟩ := List.exists_mem_of_ne_nil notes hne
    exact ⟨note, hnote, howns note hnote⟩

namespace Account

variable (account : c.Account options storage slot Holds Fails)
include account

/-- A record that the column looks at. -/
theorem judge_value (h : c.Midway Holds earlier memory) {value : String}
    (hvalue : c.value? record = some value) :
    let found := c.column.judge ⟨schema.settings, options, storage⟩
      (Row.ofFields schema.columnKeys record) memory
    c.Midway Holds (earlier ++ [record]) found.2 ∧ (found.1 ≠ [] ↔ Fails earlier record) := by
  obtain ⟨check, hjudge⟩ := c.judge_eq options storage hvalue memory
  obtain ⟨hholds, hfails⟩ := account.evaluate hvalue h.holds
  have hforeign := account.foreign (c.column.scope ⟨schema.settings, options, storage⟩
    (Row.ofFields schema.columnKeys record)) value memory h.foreign
  rw [hjudge]
  refine ⟨⟨hholds, hforeign⟩, ?_⟩
  rw [← hfails]
  cases (atom.evaluate (c.column.scope ⟨schema.settings, options, storage⟩
    (Row.ofFields schema.columnKeys record)) value memory).1 <;>
      simp [Finding.verdict, ColumnDefinition.verdictNotes, c.plain]

/-- The column itself, when a record is judged. -/
theorem judge_own (h : c.Midway Holds earlier memory) (record : List String) :
    let found := c.column.judge ⟨schema.settings, options, storage⟩
      (Row.ofFields schema.columnKeys record) memory
    c.Midway Holds (earlier ++ [record]) found.2 ∧
      ((c.value? record).isSome → c.Complains Fails earlier record found.1) := by
  intro found
  cases hvalue : c.value? record with
  | none =>
      have hsame : found.2 = memory := c.judge_eq_of_value?_eq_none rfl hvalue memory
      rw [hsame]
      exact ⟨⟨account.passOver hvalue h.holds, h.foreign⟩, fun hsome => by cases hsome⟩
  | some value =>
      obtain ⟨hmidway, hfails⟩ := account.judge_value h hvalue
      exact ⟨hmidway, fun _ =>
        complains_of_owns (fun note => ColumnDefinition.owns_of_mem_judge) hfails⟩

/-- Other columns, when a record is judged. -/
theorem judge_others (h : c.Midway Holds earlier memory) (environment : Environment)
    (row : Row) {columns : List ColumnDefinition}
    (hothers : ∀ column ∈ columns, column.name ≠ c.column.name ∧ slot ∉ column.rule.slots) :
    let found := judgeColumns environment row columns memory
    c.Midway Holds earlier found.2 ∧ ∀ note ∈ found.1, note.column ≠ c.column.name := by
  refine ⟨⟨?_, ?_⟩, fun note hnote => ?_⟩
  · -- Checks with other slots leave the slot as it is.
    refine account.congr ?_ h.holds
    refine composes_judgeColumns
      (composes_keeps fun memory' => memory'.slots.get? slot = memory.slots.get? slot)
      (fun column hcolumn check hcheck value => ?_) memory rfl
    refine keeps_holds_evaluate check (fun hslot => (hothers column hcolumn).2 ?_) value
    rw [ColumnRule.slots, checkSlots_eq_flatMap]
    exact List.mem_flatMap.2 ⟨check, hcheck, hslot⟩
  · exact composes_judgeColumns (composes_keeps (Foreign c.column.name))
      (fun column hcolumn check hcheck value =>
        keeps_foreign_evaluate (hothers column hcolumn).1 check value)
      memory h.foreign
  · obtain ⟨column, hcolumn, howns⟩ := exists_owns_of_mem_judgeColumns hnote
    rw [howns.1]
    exact (hothers column hcolumn).1

/-- One record: the slot is carried on, and the column complains if it has to. -/
theorem judgeRecord (h : c.Midway Holds earlier memory) {tree : Node}
    (hbuilt : Schema.ofTree tree = .ok schema) (record : List String) :
    let found := schema.judgeRecord ⟨schema.settings, options, storage⟩ record memory
    c.Midway Holds (earlier ++ [record]) found.2 ∧
      ((c.value? record).isSome → c.Complains Fails earlier record found.1) := by
  obtain ⟨before, after, hcolumns, hothers⟩ := c.exists_others hbuilt account.owns
  rw [List.forall_mem_append] at hothers
  intro found
  -- The columns before the one in question, the column itself, and those after it.
  let environment : Environment := ⟨schema.settings, options, storage⟩
  let row := Row.ofFields schema.columnKeys record
  let first := judgeColumns environment row before memory
  let own := c.column.judge environment row first.2
  let last := judgeColumns environment row after own.2
  have hfound : found = (first.1 ++ (own.1 ++ last.1), last.2) := by
    change judgeColumns environment row schema.columns memory = _
    rw [hcolumns]
    simp only [judgeColumns, bind_apply, pure_apply, mapM_append_apply, mapM_cons_apply,
      List.flatten_append, List.flatten_cons]
    rfl
  obtain ⟨hfirst, hfirstNotes⟩ := account.judge_others h environment row hothers.1
  obtain ⟨hown, hcomplains⟩ := account.judge_own hfirst record
  obtain ⟨hlast, hlastNotes⟩ := account.judge_others hown environment row hothers.2
  rw [hfound]
  refine ⟨hlast, fun hvalue severity => ?_⟩
  rw [← hcomplains hvalue severity]
  constructor
  · rintro ⟨note, hnote, hcolumn, hseverity⟩
    rcases List.mem_append.1 hnote with hnote | hnote
    · exact absurd hcolumn (hfirstNotes note hnote)
    · rcases List.mem_append.1 hnote with hnote | hnote
      · exact ⟨note, hnote, hcolumn, hseverity⟩
      · exact absurd hcolumn (hlastNotes note hnote)
  · rintro ⟨note, hnote, hcolumn⟩
    exact ⟨note, List.mem_append_right _ (List.mem_append_left _ hnote), hcolumn⟩

/-- All records, one after the other. -/
theorem mapM_judgeRecord (h : c.Midway Holds earlier memory) {tree : Node}
    (hbuilt : Schema.ofTree tree = .ok schema) (records : List (List String)) :
    let found := records.mapM (schema.judgeRecord ⟨schema.settings, options, storage⟩) memory
    c.Midway Holds (earlier ++ records) found.2 ∧
      ∀ i record, records[i]? = some record → (c.value? record).isSome →
        c.Complains Fails (earlier ++ records.take i) record (found.1[i]?.getD []) := by
  induction records generalizing earlier memory with
  | nil => exact ⟨by simpa using h, fun i record hrecord => by cases hrecord⟩
  | cons first rest ih =>
      obtain ⟨hfirst, hcomplains⟩ := account.judgeRecord h hbuilt first
      obtain ⟨hends, hrest⟩ := ih hfirst
      simp only [mapM_cons_apply, List.append_assoc, List.singleton_append] at hends hrest ⊢
      refine ⟨hends, fun i record hrecord hvalue => ?_⟩
      cases i with
      | zero =>
          cases hrecord
          simpa using hcomplains hvalue
      | succ i => exact hrest i record hrecord hvalue

theorem midway_start (memoize : Bool) : c.Midway Holds [] (.start memoize) :=
  ⟨account.start memoize, fun slot references h => by cases h⟩

/-- In every run under a schema that builds, the cell of a record in the column has a message, of
the severity of the column, if and only if the record fails after those before it. -/
theorem reports_iff {tree : Node} (hbuilt : Schema.ofTree tree = .ok schema)
    {records : List (List String)} {outcome : Outcome}
    (hrun : schema.HasOutcome options storage records outcome) {i : Nat} {record : List String}
    (hrecord : records[i]? = some record) (hvalue : (c.value? record).isSome)
    (severity : Severity) :
    outcome.report.get (schema.headerLine + 1 + i) c.column.name severity ≠ [] ↔
      severity = c.column.rule.settings.severity ∧ Fails (records.take i) record := by
  let found := records.mapM (schema.judgeRecord ⟨schema.settings, options, storage⟩)
    (.start options.memoize)
  obtain ⟨hends, hcomplains⟩ :=
    account.mapM_judgeRecord (account.midway_start options.memoize) hbuilt records
  have hcell : outcome.report.get (schema.headerLine + 1 + i) c.column.name severity =
      cellTexts (schema.headerLine + 1 + i) c.column.name severity (found.1[i]?.getD []) := by
    -- Whatever is said at the end, even about the last record, is not about this column.
    have hend : ∀ line,
        cellTexts line c.column.name severity (judgeEnd storage found.2).1 = [] := by
      intro line
      by_contra hne
      obtain ⟨note, hnote, hcolumn, -⟩ := (cellTexts_ne_nil_iff ..).1 hne
      obtain ⟨references, htaken, hreferences⟩ := exists_column_of_mem_judgeEnd hnote
      obtain ⟨slot, hslot⟩ := exists_slot_of_mem_takeReferences htaken
      exact hends.foreign slot references hslot (hreferences.symm.trans hcolumn)
    have hempty : ∀ report : Report, (schema.noteEmpty records report).get = report.get := by
      intro report
      unfold Schema.noteEmpty
      split <;> rfl
    rw [hrun.eq_outcomeOf, Schema.outcomeOf_eq, Schema.judgeRun, Schema.outcomeOfNotes,
      Report.get_note, hend, ite_self, List.append_nil, hempty,
      Report.get_congr (Report.row?_notePages ..), Report.get_note, if_pos rfl]
    rfl
  rw [hcell, cellTexts_ne_nil_iff, hcomplains i record hrecord hvalue severity, List.nil_append]

end Account

end Records

end AtomColumn

end CsvSchema
