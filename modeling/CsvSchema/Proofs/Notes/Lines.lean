import CsvSchema.Proofs.Csv.Lines
import CsvSchema.Proofs.Notes.Runs
import CsvSchema.Proofs.WellFormed.Documents

/-!
# The lines of messages

What is said about a record goes to a row of the report and names a line, and both are the number of
the record, where a header counts as a record.  This is the line at which the record starts if each
line before it is a record, and else a line in front of that, `Schema.line_of_messages`.
-/

namespace CsvSchema

open Stateful

/-- A text names a line: the number of the line comes after `line: `, and then nothing or a
comma. -/
def NamesLine (text : String) (line : Nat) : Prop :=
  ∃ before after, text = before ++ "line: " ++ Decimal.natText line ++ after ∧
    (after = "" ∨ ∃ more, after = ", column: " ++ more)

/-- Whichever line a note goes to, its text names the line. -/
def Note.NamesItsLine (note : Note) : Prop := ∀ line, NamesLine (note.text line) line

namespace Session

theorem namesLine_missingText (column : String) (line : Nat) :
    NamesLine (missingText column line) line :=
  ⟨"column " ++ column ++ " is missing from ", "", by simp [missingText, String.append_assoc],
    .inl rfl⟩

theorem namesLine_matchText (check : Check) (line : Nat) (column value : String) :
    NamesLine (matchText check line column value) line :=
  ⟨check.text ++ " should not have matched for ", _, by simp [matchText, String.append_assoc],
    .inr ⟨column ++ ", value: \"" ++ value ++ "\"", rfl⟩⟩

theorem namesLine_failureText (check value : String) (detail : Option String) (line : Nat)
    (column : String) : NamesLine (failureText check value detail line column) line :=
  ⟨check ++ " fails for ", _, by cases detail <;> simp [failureText, String.append_assoc],
    .inr ⟨column ++ ", value: \"" ++ value ++ "\"" ++
      detail.elim "" fun detail => " (" ++ detail ++ ")", rfl⟩⟩

end Session

namespace ColumnDefinition

variable {column : ColumnDefinition} {environment : Environment} {row : Row} {note : Note}

theorem namesItsLine_of_mem_verdictNotes {check : Check} {value : String} {verdict : Verdict}
    (h : note ∈ column.verdictNotes check value verdict) : note.NamesItsLine := by
  unfold verdictNotes at h
  split at h
  · split at h
    · obtain rfl := List.mem_singleton.1 h
      exact fun line => Session.namesLine_matchText check line column.name value
    · cases h
  · cases verdict with
    | holds => cases h
    | fails complaint =>
        obtain rfl := List.mem_singleton.1 h
        exact fun line => Session.namesLine_failureText _ _ _ line column.name

theorem namesItsLine_of_mem_judge {memory : Memory}
    (h : note ∈ (column.judge environment row memory).1) : note.NamesItsLine := by
  simp only [judge] at h
  cases hfield : row.get? (environment.settings.columnKey column.name) with
  | none =>
      rw [hfield] at h
      obtain rfl := List.mem_singleton.1 h
      exact Session.namesLine_missingText column.name
  | some value =>
      simp only [hfield] at h
      split at h
      · cases h
      · obtain ⟨check, -, middle, hcheck⟩ := exists_of_mem_flatten_mapM h
        exact namesItsLine_of_mem_verdictNotes hcheck

end ColumnDefinition

namespace Schema

variable {schema : Schema} {options : Options} {storage : Storage}

theorem namesItsLine_of_mem_judgeRecord {environment : Environment} {record : List String}
    {memory : Memory} {note : Note} (h : note ∈ (schema.judgeRecord environment record memory).1) :
    note.NamesItsLine := by
  obtain ⟨column, -, middle, hcolumn⟩ := exists_of_mem_flatten_mapM h
  exact ColumnDefinition.namesItsLine_of_mem_judge hcolumn

/-- A text has the outcome of a run over its records, but for the header if the schema has one. -/
theorem outcome_of_validateText {text : String} {outcome : Outcome}
    (h : schema.validateText options storage text = .ok outcome) :
    outcome = schema.outcomeOf options storage
      ((Csv.readText schema.settings text).drop schema.headerLine) := by
  refine HasOutcome.eq_outcomeOf (.inr ⟨(Csv.readText schema.settings text).take schema.headerLine,
    ?_, ?_⟩)
  · rw [List.length_take, Nat.min_eq_left]
    unfold headerLine
    split
    · exact Nat.zero_le _
    -- A file without a header record has no outcome if the schema wants a header.
    · next hheader =>
        rw [Nat.one_le_iff_ne_zero, Ne, List.length_eq_zero_iff]
        intro hempty
        simp [validateText, validateFile, hempty, hheader] at h
  · rw [List.take_append_drop]
    exact h

/-- Validating a record adds messages to the row of its number, counted from the header on, and each
of them names this number as the line.  The record starts at this line if and only if each line
before it is a record; else it starts further down. -/
theorem line_of_messages {tree : Node} (hbuilt : ofTree tree = .ok schema) {text : String}
    {outcome : Outcome} (hrun : schema.validateText options storage text = .ok outcome) :
    let dialect := Csv.charDialect schema.settings
    let symbols := Csv.dropMark ['\uFEFF'] text.toList
    let environment : Environment := ⟨schema.settings, options, storage⟩
    let records := (Csv.readText schema.settings text).drop schema.headerLine
    outcome = schema.outcomeOf options storage records ∧
    ∀ index record, records[index]? = some record →
      let line := schema.headerLine + index + 1
      let before :=
        (schema.validateAll environment (records.take index) (schema.firstSession options)).2
      let after := (schema.validateRecord environment record before).2
      (∃ notes, after.report = before.report.note line notes ∧
        ∀ note ∈ notes, note.NamesItsLine) ∧
      ∃ offset, Csv.StartsAt dialect symbols (schema.headerLine + index) offset ∧
        line ≤ dialect.lineAt symbols offset ∧
        (line = dialect.lineAt symbols offset ↔
          Csv.LineByLine dialect (symbols.take offset)) := by
  intro dialect symbols environment records
  refine ⟨outcome_of_validateText hrun, fun index record hrecord => ?_⟩
  intro line before after
  obtain ⟨hindex, -⟩ := List.getElem?_eq_some_iff.1 hrecord
  have hsession : before.line + 1 = line := by
    obtain ⟨-, hline, -, -⟩ := schema.validateAll_eq environment (records.take index)
      (schema.firstSession options)
    rw [hline, List.length_take_of_le (Nat.le_of_lt hindex)]
    rfl
  constructor
  · obtain ⟨-, hwrites⟩ := schema.validateRecord_eq environment record before
    have hreport := hwrites.report
    rw [hsession] at hreport
    exact ⟨_, hreport, fun note hnote => namesItsLine_of_mem_judgeRecord hnote⟩
  · have hsound : dialect.IsSound :=
      Csv.isSound_charDialect (isSeparator_of_ofTree hbuilt)
    have hcount : (Csv.readText schema.settings text).length =
        (Csv.recordsFrom dialect .lineStart symbols).length := List.length_map _
    refine Csv.exists_start hsound ?_
    rw [List.length_drop, hcount] at hindex
    omega

/-- The tree of a schema with one column that has to be empty. -/
def treeOfEmptyColumn (directives : List Child) : Node :=
  ⟨"schema", [.node "prolog" (.token "version 1.0" :: directives) none,
    .node "body" [.node "column_definition" [.token "a:",
      .node "column_rule" [.node "empty_expr" [] none] none] none] none], none⟩

/-- The first record behind the header starts at the second line; a record behind one with a line
feed in it is numbered as if it started further up. -/
theorem line_of_messages_of_quoted_line_feed :
    let text := "a\r\n\"1\n2\"\r\n3"
    let directives := [.node "global_directives" [.node "quoted_directive" [] none] none]
    ∃ schema outcome, ofTree (treeOfEmptyColumn directives) = .ok schema ∧
      schema.validateText .initial MemoryStorage.empty.toStorage text = .ok outcome ∧
      Csv.readText schema.settings text = [["a"], ["1\n2"], ["3"]] ∧
      2 = (Csv.charDialect schema.settings).lineAt text.toList 3 ∧
      3 < (Csv.charDialect schema.settings).lineAt text.toList 10 := by
  intro text directives
  let schema : Schema := ⟨.v10, { FileSettings.initial with quoted := true },
    [⟨"a", ⟨[.atom (.value .empty)], .initial⟩⟩], 0⟩
  have hbuilt : ofTree (treeOfEmptyColumn directives) = .ok schema := by
    with_unfolding_all rfl
  have hread : Csv.readText schema.settings text = [["a"], ["1\n2"], ["3"]] := by decide
  obtain ⟨outcome, hrun⟩ : ∃ outcome,
      schema.validateText .initial MemoryStorage.empty.toStorage text = .ok outcome := by
    rw [validateText, hread]
    exact ⟨_, rfl⟩
  obtain ⟨-, hlines⟩ := line_of_messages hbuilt hrun
  have hsound : (Csv.charDialect schema.settings).IsSound :=
    Csv.isSound_charDialect (isSeparator_of_ofTree hbuilt)
  have hmark : Csv.dropMark ['\uFEFF'] text.toList = text.toList := by decide
  rw [hread, hmark] at hlines
  obtain ⟨-, offset, hstart, -, hline⟩ := hlines 0 ["1\n2"] rfl
  obtain ⟨-, later, hlaterStart, hle, hlater⟩ := hlines 1 ["3"] rfl
  obtain rfl : 3 = offset := Csv.StartsAt.unique hsound
    ⟨by decide, by decide, by decide, '"', by decide, by decide⟩ hstart
  obtain rfl : 10 = later := Csv.StartsAt.unique hsound
    ⟨by decide, by decide, by decide, '3', by decide, by decide⟩ hlaterStart
  refine ⟨schema, outcome, hbuilt, hrun, hread, hline.2 ⟨by decide, by decide⟩, ?_⟩
  refine Nat.lt_of_le_of_ne hle fun heq => ?_
  have hunbroken := (hlater.1 heq).unbroken
  revert hunbroken
  decide

/-- The record behind an empty line starts at the third line, but what is said about it names the
second one. -/
theorem line_ne_of_empty_line :
    let text := "a\n\nx\n"
    ∃ schema outcome, ofTree (treeOfEmptyColumn []) = .ok schema ∧
      schema.validateText .initial MemoryStorage.empty.toStorage text = .ok outcome ∧
      outcome.report.messages = [⟨some 2, some "a", .error,
        "empty fails for line: 2, column: a, value: \"x\""⟩] ∧
      Csv.StartsAt (Csv.charDialect schema.settings) text.toList 1 3 ∧
      (Csv.charDialect schema.settings).lineAt text.toList 3 = 3 := by
  intro text
  let schema : Schema := ⟨.v10, .initial, [⟨"a", ⟨[.atom (.value .empty)], .initial⟩⟩], 0⟩
  have hbuilt : ofTree (treeOfEmptyColumn []) = .ok schema := by
    with_unfolding_all rfl
  have hread : Csv.readText schema.settings text = [["a"], ["x"]] := by decide
  have hrun : schema.validateText .initial MemoryStorage.empty.toStorage text =
      .ok (schema.outcomeOf .initial MemoryStorage.empty.toStorage [["x"]]) := by
    rw [validateText, hread]
    rfl
  exact ⟨schema, _, hbuilt, hrun, by decide +kernel,
    ⟨by decide, by decide, by decide, 'x', by decide, by decide⟩, by decide⟩

end Schema

end CsvSchema
