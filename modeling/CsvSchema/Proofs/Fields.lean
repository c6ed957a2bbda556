import CsvSchema.Run.OperandValue
import CsvSchema.Proofs.WellFormed.Documents
import Mathlib.Data.List.Nodup

/-!
# Fields by position

A row is looked up by column key.  The keys of a schema that builds are different, whether or not
letter case counts, so no column hides another one: every column has the field at its own place,
and a reference has the field of the only column that goes by its name, `Schema.fields_by_place`.
-/

namespace CsvSchema

namespace Row

variable {keys fields : List String} {key value : String}

/-- With different keys a lookup finds a pair if and only if the row has it. -/
theorem get?_eq_some_iff_mem {row : Row} (hkeys : (row.fields.map (·.1)).Nodup) :
    row.get? key = some value ↔ (key, value) ∈ row.fields := by
  rw [get?, Option.map_eq_some_iff]
  constructor
  · rintro ⟨⟨found, text⟩, hfind, rfl⟩
    have hkey : found = key := by simpa using List.find?_some hfind
    subst hkey
    exact List.mem_reverse.1 (List.mem_of_find?_eq_some hfind)
  · intro hmem
    cases hfind : row.fields.reverse.find? (·.1 == key) with
    | none =>
        rw [List.find?_eq_none] at hfind
        exact absurd (beq_self_eq_true key) (hfind (key, value) (List.mem_reverse.2 hmem))
    | some entry =>
        have hkey : entry.1 = key := by simpa using List.find?_some hfind
        have hentry : entry ∈ row.fields := List.mem_reverse.1 (List.mem_of_find?_eq_some hfind)
        exact ⟨entry, rfl, congrArg Prod.snd (List.inj_on_of_nodup_map hkeys hentry hmem hkey)⟩

theorem nodup_keys_ofFields (hkeys : keys.Nodup) :
    ((ofFields keys fields).fields.map (·.1)).Nodup := by
  rw [ofFields, List.zip_eq_zip_take_min, List.map_fst_zip (by simp)]
  exact hkeys.sublist (List.take_sublist ..)

/-- The field of a key is the one at the key's place. -/
theorem get?_ofFields_eq_some_iff (hkeys : keys.Nodup) :
    (ofFields keys fields).get? key = some value ↔
      ∃ place : Nat, keys[place]? = some key ∧ fields[place]? = some value := by
  rw [get?_eq_some_iff_mem (nodup_keys_ofFields hkeys), ofFields, List.mem_iff_getElem?]
  exact exists_congr fun place => List.getElem?_zip_eq_some

/-- A key has the field at its place, if there is one. -/
theorem get?_ofFields (hkeys : keys.Nodup) {place : Nat} (hkey : keys[place]? = some key) :
    (ofFields keys fields).get? key = fields[place]? := by
  refine Option.ext fun value => ?_
  rw [get?_ofFields_eq_some_iff hkeys]
  constructor
  · rintro ⟨other, hother, hvalue⟩
    obtain ⟨hlt, -⟩ := List.getElem?_eq_some_iff.1 hother
    rwa [(List.getElem?_inj hlt hkeys).1 (hother.trans hkey.symm)] at hvalue
  · exact fun hvalue => ⟨place, hkey, hvalue⟩

end Row

namespace Schema

variable {tree : Node} {schema : Schema}

/-- Whether the column at a place goes by a name. -/
def GoesBy (schema : Schema) (name : String) (place : Nat) : Prop :=
  ∃ column, schema.columns[place]? = some column ∧
    schema.settings.columnKey column.name = schema.settings.columnKey name

theorem goesBy_iff {name : String} {place : Nat} :
    schema.GoesBy name place ↔
      schema.columnKeys[place]? = some (schema.settings.columnKey name) := by
  rw [GoesBy, columnKeys, List.getElem?_map, Option.map_eq_some_iff]

/-- At most one column goes by a name. -/
theorem GoesBy.unique (hkeys : schema.columnKeys.Nodup) {name : String} {place other : Nat}
    (h : schema.GoesBy name place) (hother : schema.GoesBy name other) : place = other := by
  rw [goesBy_iff] at h hother
  obtain ⟨hlt, -⟩ := List.getElem?_eq_some_iff.1 h
  exact (List.getElem?_inj hlt hkeys).1 (h.trans hother.symm)

/-- The field of a reference, or the column that is missing. -/
theorem evaluate_column_eq_ok_iff (hkeys : schema.columnKeys.Nodup) {record : List String}
    {name value : String} :
    (Operand.column name).evaluate schema.settings (Row.ofFields schema.columnKeys record) =
        .ok value ↔
      ∃ place, schema.GoesBy name place ∧ record[place]? = some value := by
  simp only [Operand.evaluate, FileSettings.fieldOf, goesBy_iff]
  rw [← Row.get?_ofFields_eq_some_iff hkeys]
  cases (Row.ofFields schema.columnKeys record).get? (schema.settings.columnKey name) <;> simp

/-- In a schema that builds every column has the field at its place, whatever the length of the
record, and a reference has the field of the only column that goes by its name.  Without such a
column, or without a field for it, the column is missing. -/
theorem fields_by_place (h : ofTree tree = .ok schema) (record : List String) :
    let row := Row.ofFields schema.columnKeys record
    (∀ (place : Nat) (column : ColumnDefinition), schema.columns[place]? = some column →
      row.get? (schema.settings.columnKey column.name) = record[place]?) ∧
    (∀ (name : String) (place other : Nat),
      schema.GoesBy name place → schema.GoesBy name other → place = other) ∧
    (∀ (name : String) (place : Nat) (value : String),
      schema.GoesBy name place → record[place]? = some value →
        (Operand.column name).evaluate schema.settings row = .ok value) ∧
    (∀ name : String, (¬ ∃ place value, schema.GoesBy name place ∧ record[place]? = some value) →
      (Operand.column name).evaluate schema.settings row = .error (.missingColumn name)) := by
  have hkeys : schema.columnKeys.Nodup := nodup_columnKeys_of_ofTree h
  refine ⟨fun place column hcolumn => ?_, fun name place other => GoesBy.unique hkeys,
    fun name place value hname hvalue => ?_, fun name hnone => ?_⟩
  · exact Row.get?_ofFields hkeys (goesBy_iff.1 ⟨column, hcolumn, rfl⟩)
  · exact (evaluate_column_eq_ok_iff hkeys).2 ⟨place, hname, hvalue⟩
  · have hget : ∀ value, (Operand.column name).evaluate schema.settings
        (Row.ofFields schema.columnKeys record) ≠ .ok value := by
      intro value hvalue
      obtain ⟨place, hname, hplace⟩ := (evaluate_column_eq_ok_iff hkeys).1 hvalue
      exact hnone ⟨place, value, hname, hplace⟩
    simp only [Operand.evaluate, FileSettings.fieldOf] at hget ⊢
    split
    · rename_i value hvalue
      exact absurd (by rw [hvalue]) (hget value)
    · rfl

/-- The tree of a schema with two columns, whose names are compared without regard to case. -/
def treeOfCaselessNames : Node :=
  ⟨"schema", [.node "prolog" [.token "version 1.0",
      .node "global_directives" [.node "ignore_column_name_case_directive" [] none] none] none,
    .node "body" [
      .node "column_definition" [.token "\"\u00C4rger\":", .node "column_rule" [] none] none,
      .node "column_definition" [.token "b:", .node "column_rule" [] none] none] none], none⟩

/-- In a short record the first name is found in another spelling, and the second one is missing. -/
theorem fields_by_place_of_caseless_names :
    ∃ schema, ofTree treeOfCaselessNames = .ok schema ∧
      (Operand.column "\u00E4RGER").evaluate schema.settings
        (Row.ofFields schema.columnKeys ["1"]) = .ok "1" ∧
      (Operand.column "B").evaluate schema.settings
        (Row.ofFields schema.columnKeys ["1"]) = .error (.missingColumn "B") := by
  let schema : Schema := ⟨.v10, { FileSettings.initial with ignoreColumnNameCase := true },
    [⟨"\u00C4rger", ⟨[], .initial⟩⟩, ⟨"b", ⟨[], .initial⟩⟩], 0⟩
  have h : ofTree treeOfCaselessNames = .ok schema := by with_unfolding_all rfl
  obtain ⟨-, hunique, hfound, hmissing⟩ := fields_by_place h ["1"]
  have hfirst : schema.GoesBy "\u00E4RGER" 0 := ⟨⟨"\u00C4rger", ⟨[], .initial⟩⟩, rfl, by decide⟩
  have hsecond : schema.GoesBy "B" 1 := ⟨⟨"b", ⟨[], .initial⟩⟩, rfl, by decide⟩
  refine ⟨schema, h, hfound _ 0 "1" hfirst rfl, hmissing _ ?_⟩
  rintro ⟨place, value, hplace, hvalue⟩
  rw [← hunique _ _ _ hsecond hplace] at hvalue
  cases hvalue

end Schema

end CsvSchema
