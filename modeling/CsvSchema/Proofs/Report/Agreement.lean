import CsvSchema.Proofs.Views
import CsvSchema.Proofs.Report.Cells

/-!
# Agreement of reports

Two reports agree except for one column if they say the same about the file and have the same
messages in all cells of other columns.  Then they also list the messages that are not about the
column in the same order, `Report.AgreeExcept.messages`.
-/

namespace CsvSchema

/-- Two reports say the same about the file and about all columns except one. -/
structure Report.AgreeExcept (name : String) (report₁ report₂ : Report) : Prop where
  file : report₁.file = report₂.file
  cells : ∀ row column severity, column ≠ name →
    report₁.get row column severity = report₂.get row column severity

namespace Report.AgreeExcept

variable {name : String} {report₁ report₂ : Report} (h : AgreeExcept name report₁ report₂)

theorem refl (name : String) (report : Report) : AgreeExcept name report report :=
  ⟨rfl, fun _ _ _ _ => rfl⟩

theorem trans {report₃ : Report} (h : AgreeExcept name report₁ report₂)
    (h' : AgreeExcept name report₂ report₃) : AgreeExcept name report₁ report₃ :=
  ⟨h.file.trans h'.file, fun row column severity hne =>
    (h.cells row column severity hne).trans (h'.cells row column severity hne)⟩

include h

theorem symm : AgreeExcept name report₂ report₁ :=
  ⟨h.file.symm, fun row column severity hne => (h.cells row column severity hne).symm⟩

theorem push (row : Nat) (column : String) (severity : Severity) (message : String) :
    AgreeExcept name (report₁.push row column severity message)
      (report₂.push row column severity message) where
  file := h.file
  cells r c s hne := by rw [get_push, get_push, h.cells r c s hne]

theorem push_left (row : Nat) (severity : Severity) (message : String) :
    AgreeExcept name (report₁.push row name severity message) report₂ where
  file := h.file
  cells r c s hne := by
    rw [get_push, if_neg (fun heq => hne heq.2.1)]
    exact h.cells r c s hne

theorem pushFile (severity : Severity) (message : String) :
    AgreeExcept name (report₁.pushFile severity message) (report₂.pushFile severity message) where
  file := by rw [Report.pushFile, Report.pushFile, h.file]
  cells r c s hne := by rw [get_pushFile, get_pushFile, h.cells r c s hne]

end Report.AgreeExcept

section Messages

variable {name : String}

theorem filter_columnEntries (row : Nat) (column : String) (severities : ColumnMessages) :
    (Report.columnEntries row column severities).filter (·.column != some name) =
      if column = name then [] else Report.columnEntries row column severities := by
  have hcolumn : ∀ entry ∈ Report.columnEntries row column severities,
      entry.column = some column := by
    intro entry hentry
    obtain ⟨group, -, hmem⟩ := List.mem_flatMap.1 hentry
    obtain ⟨message, -, rfl⟩ := List.mem_map.1 hmem
    rfl
  by_cases h : column = name
  · rw [if_pos h, List.filter_eq_nil_iff]
    intro entry hentry
    simp [hcolumn entry hentry, h]
  · rw [if_neg h, List.filter_eq_self]
    intro entry hentry
    simp [hcolumn entry hentry, h]

/-- The entries of a row that are not about a column. -/
def otherEntries (name : String) (row : Nat) (columns : RowMessages) : List ReportEntry :=
  columns.entries.flatMap fun group =>
    if group.1 = name then [] else Report.columnEntries row group.1 group.2

theorem filter_rowEntries (row : Nat) (columns : RowMessages) :
    (Report.rowEntries row columns).filter (·.column != some name) =
      otherEntries name row columns := by
  rw [Report.rowEntries, List.filter_flatMap, otherEntries]
  congr 1
  funext group
  exact filter_columnEntries row group.1 group.2

theorem filter_messages (report : Report) :
    report.messages.filter (·.column != some name) =
      report.file.map FileMessage.entry ++
        report.rows.entries.flatMap fun group => otherEntries name group.1 group.2 := by
  rw [Report.messages, List.filter_append, List.filter_flatMap]
  congr 1
  · rw [List.filter_eq_self]
    intro entry hentry
    obtain ⟨message, -, rfl⟩ := List.mem_map.1 hentry
    rfl
  · congr 1
    funext group
    exact filter_rowEntries group.1 group.2

/-- A map that is missing reads like one without entries. -/
theorem map_getD_empty {κ β γ : Type} [KeyOrder κ] (map : Option (OrderedMap κ β))
    {read : OrderedMap κ β → List γ} (hempty : read .empty = []) :
    (map.map read).getD [] = read (map.getD .empty) := by
  cases map with
  | none => exact hempty.symm
  | some map => rfl

theorem columnEntries_congr (row : Nat) (column : String) {severities₁ severities₂ : ColumnMessages}
    (h : ∀ severity, (severities₁.get? severity).getD [] = (severities₂.get? severity).getD []) :
    Report.columnEntries row column severities₁ = Report.columnEntries row column severities₂ := by
  have hread : ∀ found : Option (List String), ∀ severity,
      (found.map (Report.cellEntries row column severity)).getD [] =
        Report.cellEntries row column severity (found.getD []) := by
    intro found severity
    cases found <;> rfl
  unfold Report.columnEntries
  refine OrderedMap.flatMap_entries_congr (Report.cellEntries row column) fun severity => ?_
  rw [hread, hread, h]

theorem otherEntries_congr (row : Nat) {columns₁ columns₂ : RowMessages}
    (h : ∀ column severity, column ≠ name →
      ((columns₁.get? column).bind (·.get? severity)).getD [] =
        ((columns₂.get? column).bind (·.get? severity)).getD []) :
    otherEntries name row columns₁ = otherEntries name row columns₂ := by
  unfold otherEntries
  refine OrderedMap.flatMap_entries_congr
    (fun column severities =>
      if column = name then [] else Report.columnEntries row column severities) fun column => ?_
  by_cases hcolumn : column = name
  -- In the column itself the reports may differ, but nothing of it is listed.
  · simp only [hcolumn, if_true]
    cases columns₁.get? name <;> cases columns₂.get? name <;> rfl
  · simp only [hcolumn, if_false]
    rw [map_getD_empty _ rfl, map_getD_empty _ rfl]
    refine columnEntries_congr row column fun severity => ?_
    rw [OrderedMap.get?_getD_empty, OrderedMap.get?_getD_empty]
    exact h column severity hcolumn

/-- Reports that agree list the same messages that are not about the column, in the same order. -/
theorem Report.AgreeExcept.messages {report₁ report₂ : Report}
    (h : report₁.AgreeExcept name report₂) :
    report₁.messages.filter (·.column != some name) =
      report₂.messages.filter (·.column != some name) := by
  rw [filter_messages, filter_messages, h.file]
  congr 1
  refine OrderedMap.flatMap_entries_congr (otherEntries name) fun row => ?_
  rw [map_getD_empty _ rfl, map_getD_empty _ rfl]
  refine otherEntries_congr row fun column severity hcolumn => ?_
  rw [OrderedMap.get?_getD_empty, OrderedMap.get?_getD_empty]
  exact h.cells row column severity hcolumn

end Messages

end CsvSchema
