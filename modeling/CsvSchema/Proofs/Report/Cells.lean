import CsvSchema.Report.Basic

/-!
# Cells of a report

The messages of one severity about one column of one row form a cell.  Adding a message appends it
to its cell and leaves all other cells, and the messages about the file, as they were; the number of
messages of its severity grows by one.
-/

namespace CsvSchema

namespace OrderedMap

variable {κ β γ : Type} [KeyOrder κ]

theorem get?_getD_empty {ι : Type} [KeyOrder ι] [DecidableEq ι]
    (map : Option (OrderedMap ι β)) (key : ι) :
    (map.getD .empty).get? key = map.bind (·.get? key) := by
  cases map with
  | none => rfl
  | some map => rfl

/-- Counting what the entries of a map stand for.  A change that adds `n` to what any value of the
key counts, and an initial value that counts nothing, add `n` to the whole. -/
theorem countP_flatMap_alter (map : OrderedMap κ β) (key : κ) (initial : β) (change : β → β)
    (view : κ × β → List γ) (p : γ → Bool) (n : Nat)
    (hinitial : (view (key, initial)).countP p = 0)
    (hchange : ∀ value,
      (view (key, change value)).countP p = (view (key, value)).countP p + n) :
    ((map.alter key initial change).entries.flatMap view).countP p =
      (map.entries.flatMap view).countP p + n := by
  obtain ⟨entries, increasing⟩ := map
  simp only [alter]
  -- The count does not depend on the order of the entries, and the induction would break it.
  clear increasing
  induction entries with
  | nil => simp [alterEntry, hchange, hinitial]
  | cons entry rest ih =>
      obtain ⟨k, value⟩ := entry
      unfold alterEntry
      split
      · simp only [List.flatMap_cons, List.countP_append, hchange, hinitial]
        omega
      · split
        · simp only [List.flatMap_cons, List.countP_append, ih]
          omega
        -- Neither before nor after the entry: the key is there already.
        · rename_i hbefore hafter
          have heq : key = k := KeyOrder.connected (by simpa using hbefore) (by simpa using hafter)
          subst heq
          simp only [List.flatMap_cons, List.countP_append, hchange]
          omega

end OrderedMap

namespace Report

variable (report : Report) (row : Nat) (column : String) (severity : Severity) (message : String)

theorem get_push (r : Nat) (c : String) (s : Severity) :
    (report.push row column severity message).get r c s =
      if r = row ∧ c = column ∧ s = severity then report.get r c s ++ [message]
      else report.get r c s := by
  simp only [get, push, OrderedMap.get?_alter]
  by_cases hr : r = row
  · subst hr
    simp only [if_pos, Option.bind_some, OrderedMap.get?_alter, OrderedMap.get?_getD_empty]
    by_cases hc : c = column
    · subst hc
      simp only [if_pos, Option.bind_some, OrderedMap.get?_alter, OrderedMap.get?_getD_empty]
      by_cases hs : s = severity
      · simp [hs]
      · simp [hs]
    · simp [hc]
  · simp [hr]

@[simp] theorem file_push : (report.push row column severity message).file = report.file := rfl

@[simp] theorem get_pushFile (r : Nat) (c : String) (s : Severity) :
    (report.pushFile severity message).get r c s = report.get r c s := rfl

/-- `after` is `before` with one more message at the end of one cell. -/
structure AddsOne (before after : Report) (row : Nat) (column : String) (severity : Severity)
    (message : String) : Prop where
  cell : after.get row column severity = before.get row column severity ++ [message]
  otherCells : ∀ r c s, ¬(r = row ∧ c = column ∧ s = severity) →
    after.get r c s = before.get r c s
  file : after.file = before.file

theorem addsOne_push :
    AddsOne report (report.push row column severity message) row column severity message where
  cell := by rw [get_push, if_pos ⟨rfl, rfl, rfl⟩]
  otherCells r c s h := by rw [get_push, if_neg h]
  file := rfl

theorem count_eq_countP (s : Severity) :
    report.count s = report.messages.countP (·.severity == s) :=
  List.countP_eq_length_filter.symm

theorem count_pushFile (s : Severity) :
    (report.pushFile severity message).count s =
      report.count s + if severity = s then 1 else 0 := by
  simp only [count_eq_countP, messages, pushFile, List.map_append, List.countP_append,
    List.map_cons, List.map_nil, FileMessage.entry, List.countP_singleton, beq_iff_eq]
  omega

/-- The entries of a cell that got one more message. -/
theorem countP_columnEntries_alter (severities : ColumnMessages) (s : Severity) :
    (columnEntries row column (severities.alter severity [] (· ++ [message]))).countP
        (·.severity == s) =
      (columnEntries row column severities).countP (·.severity == s) +
        if severity = s then 1 else 0 := by
  apply OrderedMap.countP_flatMap_alter
  · rfl
  · intro messages
    simp [cellEntries, List.countP_append, List.countP_singleton]

theorem count_push (s : Severity) :
    (report.push row column severity message).count s =
      report.count s + if severity = s then 1 else 0 := by
  have hrows : ((report.push row column severity message).rows.entries.flatMap fun group =>
        rowEntries group.1 group.2).countP (·.severity == s) =
      (report.rows.entries.flatMap fun group =>
        rowEntries group.1 group.2).countP (·.severity == s) + if severity = s then 1 else 0 := by
    apply OrderedMap.countP_flatMap_alter
    · rfl
    · intro columns
      apply OrderedMap.countP_flatMap_alter
      · rfl
      · intro severities
        exact countP_columnEntries_alter row column severity message severities s
  simp only [count_eq_countP, messages, List.countP_append, hrows, file_push]
  omega

end Report

end CsvSchema
