import CsvSchema.Proofs.Independence.Rows

/-!
# Headers of the declared names

Blanks around a name in a header are ignored, and those around a declared name are not.  The quotes
of a declared name keep the blanks between them, and then no header fits: not even the declared
names themselves, `Schema.headerMismatch_of_padded_name`.  Without blanks at the ends of names the
declared names are a header that every run accepts, `Schema.accepts_declared_names`.
-/

namespace CsvSchema

namespace Text

/-- Whether a text has no blanks at its ends. -/
def IsTrimmed (s : String) : Prop := trimmed s = s

instance (s : String) : Decidable (IsTrimmed s) := inferInstanceAs (Decidable (trimmed s = s))

theorem trim_sublist (s : List Char) : (trim s).Sublist s := by
  have hend : (trimEnd (trimStart s)).Sublist (trimStart s) := by
    rw [trimEnd, dropEndWhile, ← List.reverse_sublist, List.reverse_reverse]
    exact List.dropWhile_sublist _
  exact hend.trans (List.dropWhile_sublist _)

theorem length_lowerChar (c : Char) : (lowerChar c).length = 1 + [c].count '\u0130' := by
  by_cases h : c = '\u0130'
  · subst h
    rfl
  · simp [lowerChar, h]

/-- One character alone has a lower case of two, whatever stands around it. -/
theorem length_lowerAfter (before s : List Char) :
    (lowerAfter before s).length = s.length + s.count '\u0130' := by
  induction s generalizing before with
  | nil => rfl
  | cons c rest ih =>
      have hchar : (if c == '\u03A3' then [lowerSigma before rest] else lowerChar c).length =
          1 + [c].count '\u0130' := by
        split
        · rename_i hsigma
          rw [beq_iff_eq] at hsigma
          subst hsigma
          rfl
        · exact length_lowerChar c
      have hcount : ([c] ++ rest).count '\u0130' = [c].count '\u0130' + rest.count '\u0130' :=
        List.count_append
      rw [List.singleton_append] at hcount
      rw [lowerAfter, List.length_append, hchar, ih, List.length_cons, hcount]
      omega

/-- Taking off blanks makes a text shorter in lower case, too. -/
theorem folded_trimmed_eq_iff (fold : Bool) (s : String) :
    folded fold (trimmed s) = folded fold s ↔ IsTrimmed s := by
  cases fold with
  | false => exact Iff.rfl
  | true =>
      refine ⟨fun h => ?_, fun h => congrArg (folded true) h⟩
      have hlower : lower (trim s.toList) = lower s.toList := by
        simpa [folded, lowered, trimmed, String.ofList_inj] using h
      have hlength := congrArg List.length hlower
      have hsub := trim_sublist s.toList
      rw [lower, lower, length_lowerAfter, length_lowerAfter] at hlength
      have hcount := hsub.count_le '\u0130'
      have hshort := hsub.length_le
      rw [IsTrimmed, trimmed, hsub.eq_of_length (by omega), String.ofList_toList]

end Text

namespace Schema

open Text

variable {schema : Schema}

/-- If not all names are without blanks at their ends, some name is the first that has them. -/
theorem exists_first_padded {columns : List ColumnDefinition}
    (h : ¬ ∀ column ∈ columns, IsTrimmed column.name) :
    ∃ before column after, columns = before ++ column :: after ∧
      (∀ column ∈ before, IsTrimmed column.name) ∧ ¬ IsTrimmed column.name := by
  cases hfind : columns.find? fun column => !decide (IsTrimmed column.name) with
  | none => exact absurd (by simpa using List.find?_eq_none.1 hfind) h
  | some column =>
      obtain ⟨hpadded, before, after, hcolumns, htrimmed⟩ := List.find?_eq_some_iff_append.1 hfind
      exact ⟨before, column, after, hcolumns, by simpa using htrimmed, by simpa using hpadded⟩

section Names

variable {settings : FileSettings} {before after : List ColumnDefinition}
  {column : ColumnDefinition}

/-- Names without blanks at their ends can be skipped. -/
theorem checkNames_append (htrimmed : ∀ column ∈ before, IsTrimmed column.name) (place : Nat) :
    checkNames settings place (before ++ after) ((before ++ after).map (·.name)) =
      checkNames settings (place + before.length) after (after.map (·.name)) := by
  induction before generalizing place with
  | nil => rfl
  | cons column rest ih =>
      obtain ⟨hcolumn, hrest⟩ := List.forall_mem_cons.1 htrimmed
      have hkey := (folded_trimmed_eq_iff settings.ignoreColumnNameCase column.name).2 hcolumn
      rw [List.cons_append, List.map_cons, checkNames, FileSettings.columnKey, hkey,
        FileSettings.columnKey, if_pos rfl, ih hrest, List.length_cons]
      congr 1
      omega

theorem checkNames_of_isTrimmed (htrimmed : ∀ column ∈ before, IsTrimmed column.name)
    (place : Nat) : checkNames settings place before (before.map (·.name)) = .ok () := by
  have h : checkNames settings place (before ++ [])
      ((before ++ []).map ColumnDefinition.name) = _ := checkNames_append htrimmed place
  rw [List.append_nil] at h
  exact h.trans (by simp [checkNames])

theorem checkNames_of_padded (htrimmed : ∀ column ∈ before, IsTrimmed column.name)
    (hpadded : ¬ IsTrimmed column.name) (place : Nat) :
    checkNames settings place (before ++ column :: after)
        ((before ++ column :: after).map (·.name)) =
      .error (.headerMismatch (place + before.length) column.name column.name) := by
  have hkey := mt (folded_trimmed_eq_iff settings.ignoreColumnNameCase column.name).1 hpadded
  rw [checkNames_append htrimmed, List.map_cons, checkNames, FileSettings.columnKey,
    FileSettings.columnKey, if_neg hkey]

end Names

/-- The declared names in their order. -/
def declaredNames (schema : Schema) : List String := schema.columns.map (·.name)

theorem checkCount_declaredNames
    (htotal : ∀ total ∈ schema.settings.totalColumns, total = schema.columns.length) :
    schema.checkCount schema.declaredNames = .ok () := by
  rw [checkCount, if_pos]
  rw [declaredNames, List.length_map, expectedColumns]
  cases hsome : schema.settings.totalColumns with
  | none => rfl
  | some total => exact (htotal total hsome).symm

/-- Names without blanks at their ends are a header of their own schema. -/
theorem checkHeader_declaredNames
    (htotal : ∀ total ∈ schema.settings.totalColumns, total = schema.columns.length)
    (htrimmed : ∀ column ∈ schema.columns, IsTrimmed column.name) :
    schema.checkHeader schema.declaredNames = .ok () := by
  rw [checkHeader, checkCount_declaredNames htotal]
  exact checkNames_of_isTrimmed htrimmed 1

/-- The first name with blanks at its ends is not found where it stands. -/
theorem checkHeader_declaredNames_of_padded
    (htotal : ∀ total ∈ schema.settings.totalColumns, total = schema.columns.length)
    {before after : List ColumnDefinition} {column : ColumnDefinition}
    (hcolumns : schema.columns = before ++ column :: after)
    (htrimmed : ∀ column ∈ before, IsTrimmed column.name) (hpadded : ¬ IsTrimmed column.name) :
    schema.checkHeader schema.declaredNames =
      .error (.headerMismatch (1 + before.length) column.name column.name) := by
  rw [checkHeader, checkCount_declaredNames htotal, declaredNames, hcolumns]
  exact checkNames_of_padded htrimmed hpadded 1

/-- A schema accepts its declared names as a header if and only if none of them has blanks at its
ends, and then every run with that header has an outcome, whatever the records.  Otherwise every run
fails at the first name that has them. -/
theorem accepts_declared_names (hheader : schema.settings.noHeader = false)
    (htotal : ∀ total ∈ schema.settings.totalColumns, total = schema.columns.length) :
    (schema.checkHeader schema.declaredNames = .ok () ↔
      ∀ column ∈ schema.columns, IsTrimmed column.name) ∧
    ((∀ column ∈ schema.columns, IsTrimmed column.name) →
      ∀ (options : Options) (storage : Storage) (records : List (List String)),
        schema.validateRecords options storage (some schema.declaredNames) records =
          .ok (schema.outcomeOf options storage records)) ∧
    (∀ (before after : List ColumnDefinition) (column : ColumnDefinition),
      schema.columns = before ++ column :: after →
      (∀ column ∈ before, IsTrimmed column.name) → ¬ IsTrimmed column.name →
      ∀ (options : Options) (storage : Storage) (records : List (List String)),
        schema.validateRecords options storage (some schema.declaredNames) records =
          .error (.headerMismatch (1 + before.length) column.name column.name)) := by
  refine ⟨⟨fun haccepted => ?_, checkHeader_declaredNames htotal⟩, ?_, ?_⟩
  · refine Classical.byContradiction fun hnot => ?_
    obtain ⟨before, column, after, hcolumns, htrimmed, hpadded⟩ := exists_first_padded hnot
    rw [checkHeader_declaredNames_of_padded htotal hcolumns htrimmed hpadded] at haccepted
    cases haccepted
  · intro htrimmed options storage records
    exact schema.validateRecords_of_accepted hheader (checkHeader_declaredNames htotal htrimmed)
      options storage records
  · intro before after column hcolumns htrimmed hpadded options storage records
    have hstart : schema.checkStart (some schema.declaredNames) (records.map .ok) =
        .error (.headerMismatch (1 + before.length) column.name column.name) :=
      checkHeader_declaredNames_of_padded htotal hcolumns htrimmed hpadded
    simp only [validateRecords, hheader, Bool.false_eq_true, if_false, run_map_ok, hstart]
    rfl

/-- The tree of a schema with as many fields as columns and a blank inside a name. -/
def treeOfInnerBlank : Node :=
  ⟨"schema", [.node "prolog" [.token "version 1.0",
      .node "global_directives" [.node "total_columns_directive" [.token "2"] none] none] none,
    .node "body" [
      .node "column_definition" [.token "a :", .node "column_rule" [] none] none,
      .node "column_definition" [.token "\"b c\":", .node "column_rule" [] none] none] none], none⟩

/-- A blank that is not at an end of a name does no harm. -/
theorem accepts_declared_names_of_inner_blank :
    ∃ schema, ofTree treeOfInnerBlank = .ok schema ∧ schema.declaredNames = ["a", "b c"] ∧
      (∀ total ∈ schema.settings.totalColumns, total = schema.columns.length) ∧
      schema.checkHeader schema.declaredNames = .ok () ∧
      ∀ (options : Options) (storage : Storage),
        schema.validateRecords options storage (some ["a", "b c"]) [["1"]] =
          .ok (schema.outcomeOf options storage [["1"]]) := by
  let schema : Schema := ⟨.v10, { FileSettings.initial with totalColumns := some 2 },
    [⟨"a", ⟨[], .initial⟩⟩, ⟨"b c", ⟨[], .initial⟩⟩], 0⟩
  have h : ofTree treeOfInnerBlank = .ok schema := by with_unfolding_all rfl
  have htotal : ∀ total ∈ schema.settings.totalColumns, total = schema.columns.length := by
    rintro total ⟨⟩
    rfl
  have htrimmed : ∀ column ∈ schema.columns, IsTrimmed column.name := by decide
  obtain ⟨hheader, hruns, -⟩ :=
    accepts_declared_names (rfl : schema.settings.noHeader = false) htotal
  exact ⟨schema, h, rfl, htotal, hheader.2 htrimmed,
    fun options storage => hruns htrimmed options storage [["1"]]⟩

/-- The tree of a schema with blanks at the ends of a name. -/
def treeOfPaddedName : Node :=
  ⟨"schema", [.node "prolog" [.token "version 1.0"] none,
    .node "body" [
      .node "column_definition" [.token "\" a \":", .node "column_rule" [] none] none] none], none⟩

/-- The name between quotes keeps its blanks, and no run accepts it as a header. -/
theorem headerMismatch_of_padded_name :
    ∃ schema, ofTree treeOfPaddedName = .ok schema ∧ schema.settings = .initial ∧
      schema.declaredNames = [" a "] ∧
      schema.checkHeader schema.declaredNames = .error (.headerMismatch 1 " a " " a ") ∧
      (schema.validateRecords .initial MemoryStorage.empty.toStorage (some schema.declaredNames)
        [["1"]]).map Outcome.valid = .error (.headerMismatch 1 " a " " a ") := by
  let schema : Schema := ⟨.v10, .initial, [⟨" a ", ⟨[], .initial⟩⟩], 0⟩
  have h : ofTree treeOfPaddedName = .ok schema := by with_unfolding_all rfl
  exact ⟨schema, h, rfl, rfl, rfl, rfl⟩

end Schema

end CsvSchema
