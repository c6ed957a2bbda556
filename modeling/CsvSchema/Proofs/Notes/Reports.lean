import CsvSchema.Proofs.Notes.Runs
import CsvSchema.Proofs.Report.Agreement

/-!
# Reports with notes

What a report says about a line comes from the notes about that line alone, and the number of
messages of a severity grows by the number of notes of that severity.
-/

namespace CsvSchema

/-- The messages that some notes about a line leave in one cell. -/
def cellTexts (line : Nat) (column : String) (severity : Severity) (notes : List Note) :
    List String :=
  (notes.filter fun note => note.column = column && note.severity = severity).map (·.text line)

theorem cellTexts_ne_nil_iff (line : Nat) (column : String) (severity : Severity)
    (notes : List Note) :
    cellTexts line column severity notes ≠ [] ↔
      ∃ note ∈ notes, note.column = column ∧ note.severity = severity := by
  simp [cellTexts, List.filter_eq_nil_iff]

namespace Report

variable (report : Report) {report₁ report₂ : Report} {line row : Nat}

section Notes

variable (notes : List Note)

theorem get_note (line row : Nat) (column : String) (severity : Severity) :
    (report.note line notes).get row column severity = report.get row column severity ++
      if row = line then cellTexts line column severity notes else [] := by
  induction notes generalizing report with
  | nil => simp [cellTexts]
  | cons note rest ih =>
      rw [note_cons, ih, get_push]
      by_cases hrow : row = line
      · by_cases hcell : note.column = column ∧ note.severity = severity
        · obtain ⟨hcolumn, hseverity⟩ := hcell
          simp [hrow, hcolumn, hseverity, cellTexts]
        · have hother : ¬(column = note.column ∧ severity = note.severity) :=
            fun h => hcell ⟨h.1.symm, h.2.symm⟩
          simp [hrow, hcell, hother, cellTexts]
      · simp [hrow]

theorem count_note (line : Nat) (severity : Severity) :
    (report.note line notes).count severity =
      report.count severity + notes.countP (·.severity == severity) := by
  induction notes generalizing report with
  | nil => rfl
  | cons note rest ih =>
      rw [note_cons, ih, count_push, List.countP_cons]
      simp only [beq_iff_eq]
      omega

theorem row?_push (line : Nat) (column : String) (severity : Severity) (message : String) :
    (report.push line column severity message).row? row =
      if row = line then
        some (((report.row? line).getD .empty).alter column .empty fun severities =>
          severities.alter severity [] fun messages => messages ++ [message])
      else report.row? row :=
  OrderedMap.get?_alter report.rows line .empty _ row

/-- Notes about one line leave the others as they are. -/
theorem row?_note_of_ne (h : row ≠ line) : (report.note line notes).row? row = report.row? row := by
  induction notes generalizing report with
  | nil => rfl
  | cons note rest ih => rw [note_cons, ih, row?_push, if_neg h]

/-- Reports that say the same about a line still do after the same notes about it. -/
theorem row?_note_congr (h : report₁.row? line = report₂.row? line) :
    (report₁.note line notes).row? line = (report₂.note line notes).row? line := by
  induction notes generalizing report₁ report₂ with
  | nil => exact h
  | cons note rest ih =>
      refine ih ?_
      rw [row?_push, row?_push, h]

end Notes

section Pages

variable (pages : List (List Note))

theorem row?_notePages_of_lt (h : row < line) :
    (report.notePages line pages).row? row = report.row? row := by
  induction pages generalizing report line with
  | nil => rfl
  | cons notes rest ih =>
      rw [notePages, ih _ (Nat.lt_succ_of_lt h), row?_note_of_ne _ _ (Nat.ne_of_lt h)]

/-- What is said about a line comes from the notes about it, and from what was said before. -/
theorem row?_notePages (line i : Nat) :
    (report.notePages line pages).row? (line + i) =
      (report.note (line + i) (pages[i]?.getD [])).row? (line + i) := by
  induction pages generalizing report line i with
  | nil => rfl
  | cons notes rest ih =>
      cases i with
      | zero => exact row?_notePages_of_lt _ rest (Nat.lt_succ_self line)
      | succ i =>
          have hne : line + (i + 1) ≠ line := by omega
          have hline : line + (i + 1) = line + 1 + i := by omega
          have hnext := ih (report.note line notes) (line + 1) i
          rw [← hline] at hnext
          rw [notePages, hnext, List.getElem?_cons_succ]
          exact row?_note_congr _ (row?_note_of_ne report notes hne)

theorem count_notePages (line : Nat) (severity : Severity) :
    (report.notePages line pages).count severity =
      report.count severity + pages.flatten.countP (·.severity == severity) := by
  induction pages generalizing report line with
  | nil => rfl
  | cons notes rest ih =>
      rw [notePages, ih, count_note, List.flatten_cons, List.countP_append, Nat.add_assoc]

end Pages

theorem get_congr (h : report₁.row? row = report₂.row? row) (column : String)
    (severity : Severity) :
    report₁.get row column severity = report₂.get row column severity := by
  simp only [row?] at h
  rw [get, get, h]

section Listing

theorem row_of_mem_rowEntries {columns : RowMessages} {entry : ReportEntry}
    (h : entry ∈ rowEntries line columns) : entry.row = some line := by
  obtain ⟨group, -, hcolumn⟩ := List.mem_flatMap.1 h
  obtain ⟨cell, -, hcell⟩ := List.mem_flatMap.1 hcolumn
  obtain ⟨message, -, rfl⟩ := List.mem_map.1 hcell
  rfl

theorem filter_row_rowEntries (line row : Nat) (columns : RowMessages) :
    (rowEntries line columns).filter (·.row == some row) =
      if line = row then rowEntries line columns else [] := by
  split
  · rename_i hline
    rw [List.filter_eq_self]
    intro entry hentry
    simp [row_of_mem_rowEntries hentry, hline]
  · rename_i hline
    rw [List.filter_eq_nil_iff]
    intro entry hentry
    simp [row_of_mem_rowEntries hentry, hline]

theorem filter_row_file (report : Report) (row : Nat) :
    (report.file.map FileMessage.entry).filter (·.row == some row) = [] := by
  rw [List.filter_eq_nil_iff]
  intro entry hentry
  obtain ⟨message, -, rfl⟩ := List.mem_map.1 hentry
  simp [FileMessage.entry]

/-- The messages about a line are the entries under its number. -/
theorem filter_row_messages (report : Report) (row : Nat) :
    report.messages.filter (·.row == some row) = report.rows.entries.flatMap fun group =>
      if group.1 = row then rowEntries group.1 group.2 else [] := by
  rw [messages, List.filter_append, filter_row_file, List.nil_append, List.filter_flatMap]
  simp only [filter_row_rowEntries]

end Listing

/-- The messages about a line, as they are listed, come from what is said about it. -/
theorem messages_filter_row_congr (h : report₁.row? row = report₂.row? row) :
    report₁.messages.filter (·.row == some row) = report₂.messages.filter (·.row == some row) := by
  rw [filter_row_messages, filter_row_messages]
  refine OrderedMap.flatMap_entries_congr
    (fun line columns => if line = row then rowEntries line columns else []) fun line => ?_
  by_cases hline : line = row
  · simp only [row?] at h
    rw [hline, h]
  · simp only [hline, if_false]
    cases report₁.rows.get? line <;> cases report₂.rows.get? line <;> rfl

end Report

end CsvSchema
