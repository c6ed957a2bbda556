import CsvSchema.Proofs.Notes.SingleChecks

/-!
# Columns with one value

A column whose rule is one `identical` check.  The slot of the check stays empty as long as the
column looks at no record, and from then on it holds the value of the first one,
`AtomColumn.firstAccount`.  So the column complains of exactly the records that it looks at whose
value is another one, `AtomColumn.reports_iff_differs`.
-/

namespace CsvSchema

open Memory Stateful

namespace AtomColumn

variable {schema : Schema} {slot : Nat} (c : AtomColumn schema (.identical slot))

/-- A value as it is compared: without regard to letter case if that was asked for. -/
def comparable (options : Options) (value : String) : String :=
  Text.folded (options.ignoreCase || c.column.rule.settings.ignoreCase) value

/-- The value of the first of some records that the column looks at. -/
def first? (records : List (List String)) : Option String := records.findSome? c.value?

theorem first?_append_of_none {record : List String} (h : c.value? record = none)
    (earlier : List (List String)) : c.first? (earlier ++ [record]) = c.first? earlier := by
  rw [first?, List.findSome?_append, List.findSome?_singleton, h, Option.or_none, first?]

theorem first?_append_of_some {record : List String} {value : String}
    (h : c.value? record = some value) (earlier : List (List String)) :
    c.first? (earlier ++ [record]) = some ((c.first? earlier).getD value) := by
  rw [first?, List.findSome?_append, List.findSome?_singleton, h, first?]
  cases earlier.findSome? c.value? <;> rfl

/-- What the slot remembers is the first value that the column looked at, as it is compared. -/
def Remembers (options : Options) (earlier : List (List String)) (memory : Memory) : Prop :=
  memory.slots.get? slot = (c.first? earlier).map fun first => .first (c.comparable options first)

variable {c} {options : Options} {earlier : List (List String)} {memory : Memory}

/-- The first value stays; if there was none, the new one is it. -/
theorem firstValue_of_remembers (h : c.Remembers options earlier memory) (current : String) :
    let found := firstValue slot current memory
    found.1 = ((c.first? earlier).map (c.comparable options)).getD current ∧
      found.2.slots.get? slot = some (.first found.1) := by
  simp only [firstValue, get?_useSlot, if_true]
  simp only [useSlot]
  rw [h]
  cases c.first? earlier <;> exact ⟨rfl, rfl⟩

/-- The slot holds the first value, and a record fails if its value is compared as another one. -/
theorem firstAccount (c : AtomColumn schema (.identical slot)) (options : Options)
    (storage : Storage) :
    c.Account options storage slot (c.Remembers options) fun earlier record =>
      ∃ value, c.value? record = some value ∧ ∃ first, c.first? earlier = some first ∧
        c.comparable options value ≠ c.comparable options first where
  owns := by simp [Atom.slots]
  start memoize := rfl
  congr hslot h := hslot.trans h
  passOver hvalue h := by
    rw [Remembers, c.first?_append_of_none hvalue]
    exact h
  evaluate {earlier record value memory} hvalue h := by
    obtain ⟨hfirst, hslot⟩ := firstValue_of_remembers h (c.comparable options value)
    have hevaluate : (Atom.identical slot).evaluate
        (c.column.scope ⟨schema.settings, options, storage⟩
          (Row.ofFields schema.columnKeys record)) value memory =
        let found := firstValue slot (c.comparable options value) memory
        (.require (found.1 == c.comparable options value) (expectedText found.1), found.2) := rfl
    simp only [hevaluate, Remembers, hslot, hfirst, c.first?_append_of_some hvalue, hvalue]
    cases c.first? earlier with
    | none => simp [Finding.require]
    | some first =>
        have hfails : (Finding.require (c.comparable options first == c.comparable options value)
            (expectedText (c.comparable options first)) ≠ .passed) ↔
              c.comparable options value ≠ c.comparable options first := by
          simp [Finding.require, ne_comm (a := c.comparable options value)]
        simpa using hfails
  foreign scope value := (keeps_foreign_firstValue slot _).bind fun _ => .pure _

/-- In every run under a schema that builds, the cell of a record in a column with one `identical`
check has a message, of the severity of the column, if and only if an earlier record was looked at
and the first of those had another value; records without a value that is looked at are passed
over. -/
theorem reports_iff_differs {tree : Node} (hbuilt : Schema.ofTree tree = .ok schema)
    (c : AtomColumn schema (.identical slot)) {options : Options} {storage : Storage}
    {records : List (List String)} {outcome : Outcome}
    (hrun : schema.HasOutcome options storage records outcome) {i : Nat} {record : List String}
    (hrecord : records[i]? = some record) {value : String} (hvalue : c.value? record = some value)
    (severity : Severity) :
    outcome.report.get (schema.headerLine + 1 + i) c.column.name severity ≠ [] ↔
      severity = c.column.rule.settings.severity ∧
        ∃ first, (records.take i).findSome? c.value? = some first ∧
          c.comparable options value ≠ c.comparable options first := by
  have hsome : (c.value? record).isSome := by rw [hvalue, Option.isSome_some]
  rw [(c.firstAccount options storage).reports_iff hbuilt hrun hrecord hsome severity]
  refine and_congr_right fun _ => ⟨?_, ?_⟩
  · rintro ⟨_, hvalue', hfirst⟩
    cases hvalue.symm.trans hvalue'
    exact hfirst
  · exact fun hfirst => ⟨value, hvalue, hfirst⟩

/-- The tree of a schema with two columns, where the values of the first are all different and those
of the second are all the same or empty. -/
def treeOfConstant : Node :=
  ⟨"schema", [.node "prolog" [.token "version 1.0"] none,
    .node "body" [
      .node "column_definition" [.token "a:",
        .node "column_rule" [.node "unique_expr" [] none] none] none,
      .node "column_definition" [.token "b:",
        .node "column_rule" [.node "single_expr" [.node "identical_expr" [] none] none,
          .node "column_directives" [.node "optional_directive" [] none,
            .node "ignore_case_directive" [] none] none] none] none] none], none⟩

/-- A record without the field and one where it is empty come before the first value, then that
value in other letters, and then another one. -/
theorem reports_iff_differs_of_late_value :
    let records := [["1"], ["2", ""], ["3", "Ab"], ["4", "aB"], ["5", "c"]]
    ∃ schema outcome, ∃ c : AtomColumn schema (.identical 1),
      Schema.ofTree treeOfConstant = .ok schema ∧
      schema.HasOutcome .initial MemoryStorage.empty.toStorage records outcome ∧
      c.column.name = "b" ∧ c.value? ["1"] = none ∧ c.value? ["2", ""] = none ∧
      outcome.report.get 4 "b" .error = [] ∧ outcome.report.get 5 "b" .error = [] ∧
      outcome.report.get 6 "b" .error ≠ [] := by
  intro records
  let column : ColumnDefinition := ⟨"b", ⟨[.single none (.atom (.identical 1))],
    { ColumnSettings.initial with optional := true, ignoreCase := true }⟩⟩
  let schema : Schema :=
    ⟨.v10, .initial, [⟨"a", ⟨[.atom (.unique [] 0)], .initial⟩⟩, column], 2⟩
  let c : AtomColumn schema (.identical 1) := ⟨column, by simp [schema], ⟨_, rfl, .single .bare⟩, rfl⟩
  have hbuilt : Schema.ofTree treeOfConstant = .ok schema := by with_unfolding_all rfl
  have hrun : schema.HasOutcome .initial MemoryStorage.empty.toStorage records
      (schema.outcomeOf .initial MemoryStorage.empty.toStorage records) :=
    .inl ⟨some ["a", "b"], rfl⟩
  have hfirst := reports_iff_differs hbuilt c hrun
    (show records[2]? = some ["3", "Ab"] from rfl) (show c.value? _ = some "Ab" from rfl) .error
  have hsecond := reports_iff_differs hbuilt c hrun
    (show records[3]? = some ["4", "aB"] from rfl) (show c.value? _ = some "aB" from rfl) .error
  have hthird := reports_iff_differs hbuilt c hrun
    (show records[4]? = some ["5", "c"] from rfl) (show c.value? _ = some "c" from rfl) .error
  have hsame : c.comparable .initial "aB" = c.comparable .initial "Ab" := by decide
  have hother : c.comparable .initial "c" ≠ c.comparable .initial "Ab" := by decide
  refine ⟨schema, _, c, hbuilt, hrun, rfl, rfl, rfl, ?_, ?_, ?_⟩
  · refine Classical.byContradiction fun hne => ?_
    obtain ⟨-, first, hnone, -⟩ := hfirst.1 hne
    cases hnone
  · refine Classical.byContradiction fun hne => ?_
    obtain ⟨-, first, hsome, hdiffers⟩ := hsecond.1 hne
    cases (show some "Ab" = some first from hsome)
    exact hdiffers hsame
  · exact hthird.2 ⟨rfl, "Ab", rfl, hother⟩

end AtomColumn

end CsvSchema
