import Mathlib.Data.List.Induction
import Mathlib.Data.Prod.Lex
import Mathlib.Data.String.Basic
import CsvSchema.Proofs.Report.Calls
import CsvSchema.Proofs.Report.Cells

/-!
# Listing a report

A report groups the messages about rows, and lists them group by group.  Nothing is lost or made up
on the way: the list holds the messages about the file in the order of the calls and then those
about rows, stably sorted by row, column and severity.  `Report.messages_ofCalls` says so, and that
cells and counts are those of the calls.
-/

namespace CsvSchema

section Sorting

variable {α κ : Type} [LinearOrder κ] {key : α → κ} {as bs : List α}

theorem mem_iff_of_filter_eq (h : ∀ x, as.filter (key · = key x) = bs.filter (key · = key x))
    (x : α) : x ∈ as ↔ x ∈ bs := by
  have hx : x ∈ as.filter (key · = key x) ↔ x ∈ bs.filter (key · = key x) := by rw [h x]
  simpa using hx

/-- Lists in the order of their keys that have the same elements, in the same order, under each key
are the same. -/
theorem eq_of_pairwise_of_filter_eq (has : as.Pairwise (key · ≤ key ·))
    (hbs : bs.Pairwise (key · ≤ key ·))
    (h : ∀ x, as.filter (key · = key x) = bs.filter (key · = key x)) : as = bs := by
  induction as generalizing bs with
  | nil =>
      refine (List.eq_nil_iff_forall_not_mem.2 fun x hx => ?_).symm
      cases (mem_iff_of_filter_eq h x).2 hx
  | cons a as ih =>
      cases bs with
      | nil => cases (mem_iff_of_filter_eq h a).1 List.mem_cons_self
      | cons b bs =>
          obtain ⟨ha, hrestA⟩ := List.pairwise_cons.1 has
          obtain ⟨hb, hrestB⟩ := List.pairwise_cons.1 hbs
          -- Each of the first elements is in the other list, so neither key is the smaller one.
          have hkey : key a = key b := by
            apply le_antisymm
            · have hb' := (mem_iff_of_filter_eq h b).2 List.mem_cons_self
              rcases List.mem_cons.1 hb' with rfl | hmem
              · exact le_refl _
              · exact ha b hmem
            · have ha' := (mem_iff_of_filter_eq h a).1 List.mem_cons_self
              rcases List.mem_cons.1 ha' with rfl | hmem
              · exact le_refl _
              · exact hb a hmem
          obtain rfl : a = b := by
            have hfirst := h a
            rw [List.filter_cons_of_pos (by simp),
              List.filter_cons_of_pos (by simp [hkey])] at hfirst
            exact (List.cons.inj hfirst).1
          refine congrArg (a :: ·) (ih hrestA hrestB fun x => ?_)
          have hx := h x
          by_cases hax : key a = key x
          · rw [List.filter_cons_of_pos (by simpa using hax),
              List.filter_cons_of_pos (by simpa using hax)] at hx
            exact (List.cons.inj hx).2
          · rwa [List.filter_cons_of_neg (by simpa using hax),
              List.filter_cons_of_neg (by simpa using hax)] at hx

/-- Sorting keeps the elements under each key, and their order. -/
theorem filter_mergeSort (as : List α) (x : α) :
    (as.mergeSort (key · ≤ key ·)).filter (key · = key x) = as.filter (key · = key x) := by
  have hsame : (as.filter (key · = key x)).Pairwise fun a b => decide (key a ≤ key b) = true := by
    refine List.pairwise_of_forall_mem_list fun a ha b hb => ?_
    simp only [List.mem_filter, decide_eq_true_eq] at ha hb
    rw [decide_eq_true_eq, ha.2, hb.2]
  -- In the order of their keys already, so they are still a part of the list after sorting.
  have hpart := (List.sublist_mergeSort (by simpa using fun a b c => le_trans)
    (by simpa using fun a b => le_total _ _) hsame List.filter_sublist).filter (key · = key x)
  rw [List.filter_filter] at hpart
  simp only [Bool.and_self] at hpart
  exact (hpart.eq_of_length ((List.mergeSort_perm as _).filter _).length_eq.symm).symm

/-- A list in the order of its keys that has the same elements as another one under each key, in the
same order, is that other one sorted. -/
theorem eq_mergeSort_of_filter_eq (hbs : bs.Pairwise (key · ≤ key ·))
    (h : ∀ x, bs.filter (key · = key x) = as.filter (key · = key x)) :
    bs = as.mergeSort (key · ≤ key ·) := by
  have hsorted : (as.mergeSort (key · ≤ key ·)).Pairwise (key · ≤ key ·) := by
    have hpairwise : (as.mergeSort (key · ≤ key ·)).Pairwise fun a b =>
        decide (key a ≤ key b) = true :=
      List.pairwise_mergeSort (by simpa using fun a b c => le_trans)
        (by simpa using fun a b => le_total _ _) as
    simpa only [decide_eq_true_eq] using hpairwise
  exact eq_of_pairwise_of_filter_eq hbs hsorted fun x => (h x).trans (filter_mergeSort as x).symm

end Sorting

/-- Names that come first as keys come first by code points. -/
theorem KeyOrder.lt_of_before {a b : String} (h : before a b = true) : a < b := by
  rw [String.lt_iff_toList_lt]
  change listBefore a.toList b.toList = true at h
  generalize a.toList = as at h
  generalize b.toList = bs at h
  induction as generalizing bs with
  | nil =>
      cases bs with
      | nil => cases h
      | cons d bs => exact List.nil_lt_cons d bs
  | cons c as ih =>
      cases bs with
      | nil => cases h
      | cons d bs =>
          rw [listBefore_cons_iff] at h
          rw [List.cons_lt_cons_iff]
          exact h.imp of_decide_eq_true fun ⟨hsame, hrest⟩ => ⟨hsame, ih bs hrest⟩

/-- What the entries of a map stand for, as far as a property of one key goes, is what the value of
that key stands for. -/
theorem OrderedMap.filter_flatMap_entries {κ β γ : Type} [KeyOrder κ] [DecidableEq κ]
    (map : OrderedMap κ β) (read : κ → β → List γ) (p : γ → Bool) (key : κ)
    (h : ∀ k value, k ≠ key → ∀ x ∈ read k value, p x = false) :
    (map.entries.flatMap fun entry => read entry.1 entry.2).filter p =
      ((map.get? key).map fun value => (read key value).filter p).getD [] := by
  have hother : ∀ k value, k ≠ key → (read k value).filter p = [] := fun k value hk =>
    List.filter_eq_nil_iff.2 fun x hx => by simp [h k value hk x hx]
  obtain ⟨entries, increasing⟩ := map
  rw [List.filter_flatMap, get?]
  simp only
  induction entries with
  | nil => rfl
  | cons entry rest ih =>
      obtain ⟨hentry, hrest⟩ := List.pairwise_cons.1 increasing
      rw [List.flatMap_cons, ih hrest]
      by_cases hkey : entry.1 = key
      · subst hkey
        rw [find?_eq_none_of_before hentry]
        simp
      · rw [hother _ _ hkey, List.find?_cons_of_neg (by simpa using hkey), List.nil_append]

/-- The place of a severity among those of a column: errors come before warnings. -/
def Severity.rank : Severity → ℕ
  | error => 0
  | warning => 1

theorem Severity.rank_lt_of_before {a b : Severity} (h : KeyOrder.before a b = true) :
    a.rank < b.rank := of_decide_eq_true h

theorem Severity.rank_inj {a b : Severity} : a.rank = b.rank ↔ a = b := by
  cases a <;> cases b <;> decide

/-- A message about a column of a row. -/
structure CellMessage where
  row : Nat
  column : String
  severity : Severity
  message : String
  deriving Repr, DecidableEq

namespace CellMessage

/-- The entry of a message about a column of a row. -/
def entry (m : CellMessage) : ReportEntry := ⟨some m.row, some m.column, m.severity, m.message⟩

/-- Whether a message is about a column of a row and has a severity. -/
def isIn (row : Nat) (column : String) (severity : Severity) (m : CellMessage) : Bool :=
  m.row = row && m.column = column && m.severity = severity

/-- What messages are listed by: the row, in a row the column by the code points of its name, and
in a column the severity. -/
def place (m : CellMessage) : ℕ ×ₗ String ×ₗ ℕ := toLex (m.row, toLex (m.column, m.severity.rank))

theorem isIn_iff {row : Nat} {column : String} {severity : Severity} {m : CellMessage} :
    m.isIn row column severity = true ↔
      m.row = row ∧ m.column = column ∧ m.severity = severity := by
  simp only [isIn, Bool.and_eq_true, decide_eq_true_eq, and_assoc]

theorem place_eq_iff {m n : CellMessage} :
    m.place = n.place ↔ m.isIn n.row n.column n.severity = true := by
  rw [isIn_iff, place, place, toLex_inj, Prod.mk.injEq, toLex_inj, Prod.mk.injEq, Severity.rank_inj]

/-- The messages of a cell. -/
def ofCell (row : Nat) (column : String) (severity : Severity) (messages : List String) :
    List CellMessage :=
  messages.map (⟨row, column, severity, ·⟩)

/-- The messages of a column of a row, by severity. -/
def ofColumn (row : Nat) (column : String) (severities : ColumnMessages) : List CellMessage :=
  severities.entries.flatMap fun group => ofCell row column group.1 group.2

/-- The messages of a row, by column. -/
def ofRow (row : Nat) (columns : RowMessages) : List CellMessage :=
  columns.entries.flatMap fun group => ofColumn row group.1 group.2

section Groups

variable {row : Nat} {column : String} {severity : Severity} {m n : CellMessage}

theorem of_mem_ofCell {messages : List String} (h : m ∈ ofCell row column severity messages) :
    m.row = row ∧ m.column = column ∧ m.severity = severity := by
  obtain ⟨_, -, rfl⟩ := List.mem_map.1 h
  exact ⟨rfl, rfl, rfl⟩

theorem of_mem_ofColumn {severities : ColumnMessages} (h : m ∈ ofColumn row column severities) :
    m.row = row ∧ m.column = column := by
  obtain ⟨_, -, hcell⟩ := List.mem_flatMap.1 h
  obtain ⟨hrow, hcolumn, -⟩ := of_mem_ofCell hcell
  exact ⟨hrow, hcolumn⟩

theorem row_of_mem_ofRow {columns : RowMessages} (h : m ∈ ofRow row columns) : m.row = row := by
  obtain ⟨_, -, hcolumn⟩ := List.mem_flatMap.1 h
  exact (of_mem_ofColumn hcolumn).1

theorem place_le_of_row (h : m.row < n.row) : m.place ≤ n.place :=
  Prod.Lex.toLex_le_toLex.2 (.inl h)

theorem place_le_of_column (hrow : m.row = n.row) (h : m.column < n.column) : m.place ≤ n.place :=
  Prod.Lex.toLex_le_toLex.2 (.inr ⟨hrow, Prod.Lex.toLex_le_toLex.2 (.inl h)⟩)

theorem place_le_of_severity (hrow : m.row = n.row) (hcolumn : m.column = n.column)
    (h : m.severity.rank ≤ n.severity.rank) : m.place ≤ n.place :=
  Prod.Lex.toLex_le_toLex.2 (.inr ⟨hrow, Prod.Lex.toLex_le_toLex.2 (.inr ⟨hcolumn, h⟩)⟩)

theorem pairwise_ofColumn (row : Nat) (column : String) (severities : ColumnMessages) :
    (ofColumn row column severities).Pairwise fun m n => m.place ≤ n.place := by
  refine List.pairwise_flatMap.2 ⟨fun group _ => ?_, severities.increasing.imp ?_⟩
  · exact List.pairwise_map.2 (List.pairwise_of_forall_mem_list fun _ _ _ _ => le_refl _)
  · intro group group' hbefore m hm n hn
    obtain ⟨hrow, hcolumn, hseverity⟩ := of_mem_ofCell hm
    obtain ⟨hrow', hcolumn', hseverity'⟩ := of_mem_ofCell hn
    refine place_le_of_severity (hrow.trans hrow'.symm) (hcolumn.trans hcolumn'.symm) ?_
    rw [hseverity, hseverity']
    exact (Severity.rank_lt_of_before hbefore).le

theorem pairwise_ofRow (row : Nat) (columns : RowMessages) :
    (ofRow row columns).Pairwise fun m n => m.place ≤ n.place := by
  refine List.pairwise_flatMap.2 ⟨fun group _ => pairwise_ofColumn row group.1 group.2,
    columns.increasing.imp ?_⟩
  intro group group' hbefore m hm n hn
  obtain ⟨hrow, hcolumn⟩ := of_mem_ofColumn hm
  obtain ⟨hrow', hcolumn'⟩ := of_mem_ofColumn hn
  refine place_le_of_column (hrow.trans hrow'.symm) ?_
  rw [hcolumn, hcolumn']
  exact KeyOrder.lt_of_before hbefore

theorem filter_ofCell (messages : List String) :
    (ofCell row column severity messages).filter (·.isIn row column severity) =
      ofCell row column severity messages :=
  List.filter_eq_self.2 fun _ hm => isIn_iff.2 (of_mem_ofCell hm)

/-- Of the messages of a column those of a severity are in the group of that severity. -/
theorem filter_ofColumn (severities : ColumnMessages) :
    (ofColumn row column severities).filter (·.isIn row column severity) =
      ofCell row column severity ((severities.get? severity).getD []) := by
  rw [ofColumn, OrderedMap.filter_flatMap_entries severities (ofCell row column) _ severity]
  · cases severities.get? severity with
    | none => rfl
    | some messages => exact filter_ofCell messages
  · intro other messages hother m hm
    exact Bool.eq_false_iff.2 fun hin =>
      hother ((of_mem_ofCell hm).2.2.symm.trans (isIn_iff.1 hin).2.2)

theorem filter_ofRow (columns : RowMessages) :
    (ofRow row columns).filter (·.isIn row column severity) =
      ofCell row column severity (((columns.get? column).bind (·.get? severity)).getD []) := by
  rw [ofRow, OrderedMap.filter_flatMap_entries columns (ofColumn row) _ column]
  · cases columns.get? column with
    | none => rfl
    | some severities => exact filter_ofColumn severities
  · intro other severities hother m hm
    exact Bool.eq_false_iff.2 fun hin =>
      hother ((of_mem_ofColumn hm).2.symm.trans (isIn_iff.1 hin).2.1)

end Groups

end CellMessage

namespace Report

/-- The messages of a report about rows, by row. -/
def cellMessages (report : Report) : List CellMessage :=
  report.rows.entries.flatMap fun group => CellMessage.ofRow group.1 group.2

theorem messages_eq_cellMessages (report : Report) :
    report.messages =
      report.file.map FileMessage.entry ++ report.cellMessages.map CellMessage.entry := by
  simp only [messages, cellMessages, rowEntries, CellMessage.ofRow, columnEntries,
    CellMessage.ofColumn, cellEntries, CellMessage.ofCell, List.map_flatMap, List.map_map]
  rfl

/-- Groups come in the order of their keys, and a key counts before those further inside. -/
theorem pairwise_cellMessages (report : Report) :
    report.cellMessages.Pairwise fun m n => m.place ≤ n.place := by
  refine List.pairwise_flatMap.2 ⟨fun group _ => CellMessage.pairwise_ofRow group.1 group.2,
    report.rows.increasing.imp ?_⟩
  intro group group' hbefore m hm n hn
  refine CellMessage.place_le_of_row ?_
  rw [CellMessage.row_of_mem_ofRow hm, CellMessage.row_of_mem_ofRow hn]
  exact of_decide_eq_true hbefore

/-- Of the messages about rows those of a cell are listed as they are in the cell. -/
theorem filter_cellMessages (report : Report) (row : Nat) (column : String) (severity : Severity) :
    report.cellMessages.filter (·.isIn row column severity) =
      CellMessage.ofCell row column severity (report.get row column severity) := by
  rw [cellMessages, OrderedMap.filter_flatMap_entries report.rows CellMessage.ofRow _ row, get]
  · cases report.rows.get? row with
    | none => rfl
    | some columns => exact CellMessage.filter_ofRow columns
  · intro other columns hother m hm
    exact Bool.eq_false_iff.2 fun hin =>
      hother ((CellMessage.row_of_mem_ofRow hm).symm.trans (CellMessage.isIn_iff.1 hin).1)

namespace Call

/-- The severity of the message of a call. -/
def severity : Call → Severity
  | push _ _ severity _ => severity
  | pushFile severity _ => severity

/-- The message of a call about the file. -/
def fileMessage? : Call → Option FileMessage
  | push _ _ _ _ => none
  | pushFile severity message => some ⟨severity, message⟩

/-- The message of a call about a column of a row. -/
def cellMessage? : Call → Option CellMessage
  | push row column severity message => some ⟨row, column, severity, message⟩
  | pushFile _ _ => none

end Call

section Calls

variable (calls : List Call)

theorem ofCalls_concat (call : Call) : ofCalls (calls ++ [call]) = (ofCalls calls).add call :=
  List.foldl_concat add .empty call calls

theorem file_ofCalls : (ofCalls calls).file = calls.filterMap Call.fileMessage? := by
  induction calls using List.reverseRecOn with
  | nil => rfl
  | append_singleton calls call ih =>
      rw [ofCalls_concat, List.filterMap_append, ← ih]
      cases call with
      | push row column severity message => exact (List.append_nil _).symm
      | pushFile severity message => rfl

/-- A cell holds the messages of the calls about it, in the order of the calls. -/
theorem get_ofCalls (row : Nat) (column : String) (severity : Severity) :
    (ofCalls calls).get row column severity =
      ((calls.filterMap Call.cellMessage?).filter (·.isIn row column severity)).map
        (·.message) := by
  induction calls using List.reverseRecOn with
  | nil => rfl
  | append_singleton calls call ih =>
      rw [ofCalls_concat, List.filterMap_append, List.filter_append, List.map_append, ← ih]
      cases call with
      | push r c s message =>
          rw [add, get_push]
          by_cases hcell : row = r ∧ column = c ∧ severity = s
          · rw [if_pos hcell]
            obtain ⟨rfl, rfl, rfl⟩ := hcell
            simp [Call.cellMessage?, CellMessage.isIn]
          · have hother : CellMessage.isIn row column severity ⟨r, c, s, message⟩ = false := by
              refine Bool.eq_false_iff.2 fun hin => hcell ?_
              obtain ⟨rfl, rfl, rfl⟩ := CellMessage.isIn_iff.1 hin
              exact ⟨rfl, rfl, rfl⟩
            rw [if_neg hcell]
            simp [Call.cellMessage?, hother]
      | pushFile s message => exact (List.append_nil _).symm

theorem count_ofCalls (severity : Severity) :
    (ofCalls calls).count severity = calls.countP (·.severity == severity) := by
  induction calls using List.reverseRecOn with
  | nil => rfl
  | append_singleton calls call ih =>
      rw [ofCalls_concat, List.countP_append, ← ih]
      cases call with
      | push row column s message =>
          rw [add, count_push, List.countP_singleton]
          simp only [Call.severity, beq_iff_eq]
      | pushFile s message =>
          rw [add, count_pushFile, List.countP_singleton]
          simp only [Call.severity, beq_iff_eq]

/-- The messages about rows that calls leave are those of the calls in the order of their places. -/
theorem cellMessages_ofCalls :
    (ofCalls calls).cellMessages =
      (calls.filterMap Call.cellMessage?).mergeSort (·.place ≤ ·.place) := by
  refine eq_mergeSort_of_filter_eq (pairwise_cellMessages _) fun m => ?_
  have hplace : ∀ n : CellMessage,
      decide (n.place = m.place) = n.isIn m.row m.column m.severity := fun n => by
    rw [Bool.eq_iff_iff, decide_eq_true_eq, CellMessage.place_eq_iff]
  simp only [hplace, filter_cellMessages, get_ofCalls, CellMessage.ofCell, List.map_map]
  -- A message in the cell is put together again from its text.
  refine (List.map_congr_left fun n hn => ?_).trans (List.map_id _)
  obtain ⟨hrow, hcolumn, hseverity⟩ := CellMessage.isIn_iff.1 (List.mem_filter.1 hn).2
  simp only [Function.comp_apply, ← hrow, ← hcolumn, ← hseverity, id_eq]

/-- After any calls a report lists the messages about the file in the order of the calls, and then
the messages of the calls about rows, sorted by their places, with those of one place left in the
order of the calls, as `filter_mergeSort` says.  A cell holds the messages of the calls about it in
that order, and there are as many messages of a severity as there were calls with it. -/
theorem messages_ofCalls :
    (ofCalls calls).messages =
        (calls.filterMap Call.fileMessage?).map FileMessage.entry ++
          ((calls.filterMap Call.cellMessage?).mergeSort (·.place ≤ ·.place)).map
            CellMessage.entry ∧
      (∀ row column severity, (ofCalls calls).get row column severity =
        ((calls.filterMap Call.cellMessage?).filter (·.isIn row column severity)).map
          (·.message)) ∧
      ∀ severity, (ofCalls calls).count severity = calls.countP (·.severity == severity) := by
  refine ⟨?_, get_ofCalls calls, count_ofCalls calls⟩
  rw [messages_eq_cellMessages, file_ofCalls, cellMessages_ofCalls]

example :
    (ofCalls [.push 3 "b" .error "r3b", .push 1 "z" .warning "r1z", .push 1 "a" .error "r1a",
      .pushFile .error "empty"]).messages.map (·.message) = ["empty", "r1a", "r1z", "r3b"] := by
  decide

end Calls

end Report

end CsvSchema
