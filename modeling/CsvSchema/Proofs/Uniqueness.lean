import CsvSchema.Proofs.Notes.SingleChecks

/-!
# Columns without repetitions

A column whose rule is one `unique` check.  What the slot of the check holds after some records are
exactly the keys of those that the column looked at, `UniqueColumn.account`.  So the column
complains of a record exactly if a compared field is missing or an earlier record had the same key,
`UniqueColumn.reports_iff_repeated`.
-/

namespace CsvSchema

open Memory Stateful

/-- A column of a schema whose rule is one `unique` check, which is not meant to fail. -/
structure UniqueColumn (schema : Schema) where
  column : ColumnDefinition
  /-- The columns that the check refers to. -/
  names : List String
  slot : Nat
  mem : column ∈ schema.columns
  rule : ∃ check, column.rule.checks = [check] ∧ check.Is (.unique names slot)
  plain : column.rule.settings.matchIsFalse = false

namespace UniqueColumn

section Keys

variable {schema : Schema} (u : UniqueColumn schema)

/-- The column as one with one check. -/
def toAtomColumn : AtomColumn schema (.unique u.names u.slot) where
  column := u.column
  mem := u.mem
  rule := u.rule
  plain := u.plain

/-- The value with which a record is evaluated. -/
def value? (record : List String) : Option String := u.toAtomColumn.value? record

/-- The columns whose fields are compared. -/
def compared : List String := if u.names.isEmpty then [u.column.name] else u.names

/-- What a record is compared by, unless it lacks a compared field. -/
def key? (options : Options) (record : List String) : Option (List String) :=
  u.compared.mapM fun name =>
    ((Row.ofFields schema.columnKeys record).get? (schema.settings.columnKey name)).map
      (Text.folded (options.ignoreCase || u.column.rule.settings.ignoreCase))

/-- The key of a record, if the record is evaluated and has one. -/
def occurrence? (options : Options) (record : List String) : Option (List String) :=
  (u.value? record).bind fun _ => u.key? options record

/-- A record that lacks a compared field, or has the key of an earlier one. -/
def Fails (options : Options) (earlier : List (List String)) (record : List String) : Prop :=
  u.key? options record = none ∨
    ∃ other ∈ earlier, ∃ key, u.occurrence? options other = some key ∧
      u.key? options record = some key

theorem mapM_toOption {ε α β : Type} (f : α → Except ε β) (items : List α) :
    (items.mapM f).toOption = items.mapM fun item => (f item).toOption := by
  induction items with
  | nil => rfl
  | cons item rest ih =>
      rw [List.mapM_cons, List.mapM_cons, ← ih]
      cases f item with
      | error e => rfl
      | ok b => cases rest.mapM f <;> rfl

/-- The key that the check computes for a value is that of the record. -/
theorem toOption_uniqueKey (options : Options) (storage : Storage) {record : List String}
    {value : String} (h : u.value? record = some value) :
    (uniqueKey (u.column.scope ⟨schema.settings, options, storage⟩
      (Row.ofFields schema.columnKeys record)) value u.names).toOption = u.key? options record := by
  unfold uniqueKey key? compared
  cases hnames : u.names.isEmpty with
  | true =>
      have hfield : (Row.ofFields schema.columnKeys record).get?
          (schema.settings.columnKey u.column.name) = some value :=
        (u.toAtomColumn.get?_of_value? h).1
      simp only [if_true, List.mapM_cons, List.mapM_nil, hfield]
      rfl
  | false =>
      simp only [Bool.false_eq_true, if_false, mapM_toOption]
      congr 1
      funext name
      simp only [Scope.field, ColumnDefinition.scope, FileSettings.fieldOf]
      cases (Row.ofFields schema.columnKeys record).get? (schema.settings.columnKey name) <;> rfl

end Keys

section Memories

/-- What a slot remembers are the keys with a property, and no other check has used it. -/
def Saw (slot : Nat) (S : List String → Prop) (memory : Memory) : Prop :=
  match memory.slots.get? slot with
  | none => ∀ key, ¬S key
  | some (.seen known) => ∀ key, key ∈ known ↔ S key
  | some _ => False

variable {slot : Nat} {S : List String → Prop} {memory : Memory}

/-- A key is new if it was not seen before, and is seen from then on. -/
theorem saw_isNew (h : Saw slot S memory) (key : List String) :
    ((isNew slot key memory).1 = true ↔ ¬S key) ∧
      Saw slot (fun k => S k ∨ k = key) (isNew slot key memory).2 := by
  unfold Saw at h ⊢
  simp only [isNew, get?_useSlot, if_true]
  simp only [useSlot]
  -- An empty slot has seen nothing; a full one is asked whether it has the key.
  cases hslot : memory.slots.get? slot with
  | none =>
      rw [hslot] at h
      simp only [h, not_false_eq_true, List.mem_singleton, false_or, true_and, implies_true]
  | some content =>
      rw [hslot] at h
      cases content with
      | seen known =>
          simp only at h
          cases hknown : known.contains key with
          | true =>
              have hkey : S key := (h key).1 (List.contains_iff_mem.1 hknown)
              simp only [hknown, if_true]
              have hsame : ∀ k, (S k ∨ k = key) ↔ S k := fun k => or_iff_left_of_imp (· ▸ hkey)
              exact ⟨by simp [hkey], fun k => by rw [h, hsame]⟩
          | false =>
              have hkey : ¬S key := by
                intro hkey
                rw [List.contains_iff_mem.2 ((h key).2 hkey)] at hknown
                cases hknown
              simp only [hknown, Bool.false_eq_true, if_false]
              exact ⟨by simp [hkey], fun k => by simp only [List.mem_cons, h, or_comm]⟩
      | first value => exact h.elim
      | references references => exact h.elim

end Memories

section Records

variable {schema : Schema} (u : UniqueColumn schema)

/-- Records without a key add nothing to what was seen. -/
theorem seen_append_of_none {options : Options} {record : List String}
    (hnone : u.occurrence? options record = none) (earlier : List (List String)) :
    (fun key => ∃ r ∈ earlier ++ [record], u.occurrence? options r = some key) =
      fun key => ∃ r ∈ earlier, u.occurrence? options r = some key := by
  funext key
  simp [or_and_right, exists_or, hnone]

theorem seen_append_of_some {options : Options} {record : List String} {key : List String}
    (hkey : u.occurrence? options record = some key) (earlier : List (List String)) :
    (fun k => ∃ r ∈ earlier ++ [record], u.occurrence? options r = some k) =
      fun k => (∃ r ∈ earlier, u.occurrence? options r = some k) ∨ k = key := by
  funext k
  simp [or_and_right, exists_or, hkey, eq_comm]

/-- The slot has seen the keys of the records so far, and a record fails without a key or with one
that was seen. -/
theorem account (options : Options) (storage : Storage) :
    u.toAtomColumn.Account options storage u.slot
      (fun earlier => Saw u.slot fun key =>
        ∃ record ∈ earlier, u.occurrence? options record = some key)
      (u.Fails options) where
  owns := by simp [Atom.slots]
  start memoize key h := by simp at h
  congr hslot h := by
    unfold Saw at h ⊢
    rw [hslot]
    exact h
  passOver {earlier record memory} hvalue h := by
    have hnone : u.occurrence? options record = none := by
      rw [occurrence?, value?, hvalue, Option.bind_none]
    rw [u.seen_append_of_none hnone]
    exact h
  evaluate {earlier record value memory} hvalue h := by
    have hkey := u.toOption_uniqueKey options storage hvalue
    have hoccurrence : u.occurrence? options record = u.key? options record := by
      rw [occurrence?, value?, hvalue, Option.bind_some]
    simp only [Atom.evaluate, findUnique]
    cases hunique : uniqueKey (u.toAtomColumn.column.scope ⟨schema.settings, options, storage⟩
        (Row.ofFields schema.columnKeys record)) value u.names with
    | error e =>
        -- Without a key the slot is not used.
        have hnone : u.key? options record = none := by
          rw [← hkey]
          exact congrArg Except.toOption hunique
        rw [u.seen_append_of_none (hoccurrence.trans hnone)]
        refine ⟨h, ?_⟩
        simp [pure_apply, Fails, hnone]
    | ok key =>
        have hsome : u.key? options record = some key := by
          rw [← hkey]
          exact congrArg Except.toOption hunique
        obtain ⟨hnew, hsaw⟩ := saw_isNew h key
        rw [u.seen_append_of_some (hoccurrence.trans hsome)]
        refine ⟨hsaw, ?_⟩
        have hfails : u.Fails options earlier record ↔
            ∃ other ∈ earlier, u.occurrence? options other = some key := by
          simp [Fails, hsome]
        rw [hfails, ← not_iff_not, ← hnew]
        simp only [bind_apply, pure_apply]
        cases (Memory.isNew u.slot key memory).1 <;> simp [Finding.require]
  foreign scope value := by
    simp only [Atom.evaluate, findUnique]
    split
    · exact .pure _
    · exact (keeps_foreign_isNew u.slot _).bind fun _ => .pure _

/-- In every run under a schema that builds, the cell of a record in a unique column has a message,
of the severity of the column, if and only if the record lacks a compared field or has the key of an
earlier record; here a record without a value that is looked at is passed over, and has no key for
later ones. -/
theorem reports_iff_repeated {tree : Node} (hbuilt : Schema.ofTree tree = .ok schema)
    (u : UniqueColumn schema) {options : Options} {storage : Storage} {records : List (List String)}
    {outcome : Outcome} (hrun : schema.HasOutcome options storage records outcome) {i : Nat}
    {record : List String} (hrecord : records[i]? = some record)
    (hvalue : (u.value? record).isSome) (severity : Severity) :
    outcome.report.get (schema.headerLine + 1 + i) u.column.name severity ≠ [] ↔
      severity = u.column.rule.settings.severity ∧
        (u.key? options record = none ∨
          ∃ earlier ∈ records.take i, (u.value? earlier).isSome ∧
            ∃ key, u.key? options earlier = some key ∧ u.key? options record = some key) := by
  rw [show u.column.name = u.toAtomColumn.column.name from rfl,
    (u.account options storage).reports_iff hbuilt hrun hrecord hvalue severity, Fails]
  refine and_congr_right fun _ => or_congr_right ?_
  simp only [occurrence?, Option.bind_eq_some_iff, Option.isSome_iff_exists]
  constructor
  · rintro ⟨other, hmem, key, ⟨value, hother, hkey⟩, hsame⟩
    exact ⟨other, hmem, ⟨value, hother⟩, key, hkey, hsame⟩
  · rintro ⟨other, hmem, ⟨value, hother⟩, key, hkey, hsame⟩
    exact ⟨other, hmem, key, ⟨value, hother, hkey⟩, hsame⟩

/-- The tree of a schema with two columns, in the first of which no pair of fields is to come
twice. -/
def treeOfPairs : Node :=
  let reference (name : String) : Child := .node "column_ref" [.token name] none
  let unique : Child := .node "unique_expr" [reference "$a", reference "$b"] none
  ⟨"schema", [.node "prolog" [.token "version 1.0"] none,
    .node "body" [
      .node "column_definition" [.token "a:",
        .node "column_rule" [.node "single_expr" [unique] none] none] none,
      .node "column_definition" [.token "b:", .node "column_rule" [] none] none] none], none⟩

/-- The second of three records differs from the first in one field, the third one in none. -/
theorem reports_iff_repeated_of_pairs :
    let records := [["x", "y"], ["x", "z"], ["x", "y"]]
    ∃ schema outcome, ∃ u : UniqueColumn schema, Schema.ofTree treeOfPairs = .ok schema ∧
      u.names = ["a", "b"] ∧
      schema.HasOutcome .initial MemoryStorage.empty.toStorage records outcome ∧
      (u.value? ["x", "z"]).isSome ∧ (u.value? ["x", "y"]).isSome ∧
      outcome.report.get 3 "a" .error = [] ∧ outcome.report.get 4 "a" .error ≠ [] := by
  intro records
  let column : ColumnDefinition := ⟨"a", ⟨[.single none (.atom (.unique ["a", "b"] 0))], .initial⟩⟩
  let schema : Schema := ⟨.v10, .initial, [column, ⟨"b", ⟨[], .initial⟩⟩], 1⟩
  let u : UniqueColumn schema :=
    ⟨column, ["a", "b"], 0, List.mem_cons_self, ⟨_, rfl, .single .bare⟩, rfl⟩
  have hbuilt : Schema.ofTree treeOfPairs = .ok schema := by with_unfolding_all rfl
  have hrun : schema.HasOutcome .initial MemoryStorage.empty.toStorage records
      (schema.outcomeOf .initial MemoryStorage.empty.toStorage records) :=
    .inl ⟨some ["a", "b"], rfl⟩
  have hsecond := reports_iff_repeated hbuilt u hrun
    (show records[1]? = some ["x", "z"] from rfl) rfl .error
  have hthird := reports_iff_repeated hbuilt u hrun
    (show records[2]? = some ["x", "y"] from rfl) rfl .error
  refine ⟨schema, _, u, hbuilt, rfl, hrun, rfl, rfl, ?_, ?_⟩
  · refine Classical.byContradiction fun hne => ?_
    obtain ⟨-, hnone | ⟨earlier, hmem, -, key, hkey, hsame⟩⟩ := hsecond.1 hne
    · cases hnone
    · cases List.mem_singleton.1 hmem
      have hkeys : some ["x", "y"] = some ["x", "z"] := hkey.trans hsame.symm
      exact absurd hkeys (by decide)
  · exact hthird.2 ⟨rfl, .inr ⟨["x", "y"], by decide, rfl, ["x", "y"], rfl, rfl⟩⟩

end Records

end UniqueColumn

end CsvSchema
