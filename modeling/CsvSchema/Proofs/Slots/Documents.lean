import CsvSchema.Proofs.Slots.Compounds

/-!
# Slots of rules, columns and schemas

The nodes above the checks of a schema respect slots too: a rule has the slots of its checks, a
column those of its rule, and a schema those of its columns, with the number of all slots beside
them.
-/

namespace CsvSchema

open Fallible

variable {parts : List Part} {slot : Nat} {document : Bool}

theorem splits_splitChecks : Splits Part.check splitChecks where
  cons _ _ := rfl
  stop rest h := by
    cases rest with
    | nil => rfl
    | cons part tail =>
        cases part with
        | check c => exact absurd rfl (h c tail)
        | _ => rfl

theorem settingsTail_of_splitColumnSettings
    (h : refuseRest (splitColumnSettings parts).2 = .ok ()) :
    SettingsTail .columnSettings .initial parts (splitColumnSettings parts).1 := by
  have hnil := eq_nil_of_refuseRest h
  unfold splitColumnSettings at hnil ⊢
  split at hnil
  · simp only at hnil
    subst hnil
    exact .given _
  · simp only at hnil
    subst hnil
    exact .omitted

theorem of_reduceRule {rule : ColumnRule} (h : reduceRule parts = .ok rule) :
    ∃ tail, SettingsTail .columnSettings .initial tail rule.settings ∧
      parts = rule.checks.map .check ++ tail := by
  obtain ⟨nothing, hrest, hrule⟩ := bind_eq_ok.1 h
  rw [← pure_eq_ok.1 hrule]
  exact ⟨_, settingsTail_of_splitColumnSettings hrest, splits_splitChecks.eq_append rfl⟩

theorem reduceRule_append (checks : List Check) {tail : List Part} {settings : ColumnSettings}
    (h : SettingsTail .columnSettings .initial tail settings) :
    reduceRule (checks.map .check ++ tail) = .ok ⟨checks, settings⟩ := by
  have hstop : ∀ c rest, tail ≠ .check c :: rest := by
    rintro c rest rfl
    cases h
  have hsplit := splits_splitChecks.append checks hstop
  simp only [reduceRule, hsplit]
  cases h with
  | omitted => rfl
  | given settings => rfl

theorem respects_reduceRule {rule : ColumnRule} (h : reduceRule parts = .ok rule) :
    Respects (fun _ parts => (reduceRule parts).map .rule) 0 document slot parts (.rule rule) := by
  obtain ⟨tail, htail, rfl⟩ := of_reduceRule h
  have hplain := htail.allPlain fun _ => rfl
  refine ⟨?_, by simp [Part.total?], fun _ => ?_, fun f => ?_⟩
  · rw [List.flatMap_append, slots_map_check, slots_of_allPlain hplain]
    simp [Part.slots, ColumnRule.slots]
  · exact List.forall_mem_append.2
      ⟨isDocument_map_check, fun p hp => Part.isDocument_of_isPlain (hplain p hp)⟩
  · rw [List.map_append, map_mapSlots_map_check, map_mapSlots_of_allPlain f hplain,
      reduceRule_append _ htail]
    rfl

theorem reduceColumn_eq_ok_iff (column : ColumnDefinition) :
    reduceColumn parts = .ok column ↔
      ∃ raw, parts = [.token raw, .rule column.rule] ∧ Text.declaredName raw = column.name ∧
        column.name ≠ "" := by
  unfold reduceColumn
  split
  · rename_i namePart rulePart
    simp only [bind_eq_ok, Part.asToken_eq_ok_iff]
    constructor
    · rintro ⟨raw, rfl, h⟩
      split at h
      · simp only [throw_eq_ok] at h
      · rename_i hne
        simp only [bind_eq_ok, pure_eq_ok, Part.asRule_eq_ok_iff] at h
        obtain ⟨rule, rfl, rfl⟩ := h
        exact ⟨raw, rfl, rfl, hne⟩
    · rintro ⟨raw, hparts, hname, hne⟩
      -- An empty name is refused before the rule is looked at.
      obtain ⟨rfl, rfl⟩ : namePart = .token raw ∧ rulePart = .rule column.rule := by
        simpa using hparts
      refine ⟨raw, rfl, ?_⟩
      rw [hname, if_neg hne]
      rfl
  · rename_i hshape
    constructor
    · intro h
      cases h
    · rintro ⟨raw, rfl, -⟩
      exact absurd rfl (hshape _ _)

theorem respects_reduceColumn {column : ColumnDefinition} (h : reduceColumn parts = .ok column) :
    Respects (fun _ parts => (reduceColumn parts).map .column) 0 document slot parts
      (.column column) := by
  obtain ⟨raw, rfl, hname, hne⟩ := (reduceColumn_eq_ok_iff column).1 h
  refine ⟨by simp [Part.slots], by simp [Part.total?], by simp [Part.isDocument], fun f => ?_⟩
  exact map_eq_ok.2
    ⟨column.mapSlots f, (reduceColumn_eq_ok_iff _).2 ⟨raw, rfl, hname, hne⟩, rfl⟩

theorem mapM_asColumn_eq_ok_iff (columns : List ColumnDefinition) :
    parts.mapM Part.asColumn = .ok columns ↔ parts = columns.map .column :=
  mapM_eq_ok_iff Part.asColumn_eq_ok_iff

theorem respects_reduceBody {part : Part} (h : reduceBody slot parts = .ok part) :
    Respects reduceBody 0 true slot parts part := by
  obtain ⟨columns, hcolumns, hpart⟩ := bind_eq_ok.1 h
  rw [← pure_eq_ok.1 hpart]
  rw [mapM_asColumn_eq_ok_iff] at hcolumns
  subst hcolumns
  refine ⟨?_, ?_, by simp, fun f => ?_⟩
  · simp [Part.slots, columnSlots, List.flatMap_map]
  · rintro total hmem
    cases hmem
    exact .inl rfl
  · refine bind_eq_ok.2 ⟨columns.map (·.mapSlots f), (mapM_asColumn_eq_ok_iff _).2 ?_, rfl⟩
    rw [List.map_map, List.map_map]
    rfl

theorem checkColumnNames_mapSlots (settings : FileSettings) (f : Nat → Nat) (seen : List String)
    (columns : List ColumnDefinition) :
    checkColumnNames settings seen (columns.map (·.mapSlots f)) =
      checkColumnNames settings seen columns := by
  induction columns generalizing seen with
  | nil => rfl
  | cons column rest ih =>
      simp only [List.map_cons, checkColumnNames, ih]
      rfl

theorem reduceSchema_eq_ok_iff (schema : Schema) :
    reduceSchema parts = .ok schema ↔
      parts = [.prolog schema.version schema.settings, .body schema.columns schema.slots] ∧
        checkColumnNames schema.settings [] schema.columns = .ok () := by
  unfold reduceSchema
  split
  · rename_i headPart bodyPart
    simp only [bind_eq_ok, pure_eq_ok, Part.asProlog_eq_ok_iff, Part.asBody_eq_ok_iff]
    constructor
    · rintro ⟨head, rfl, body, rfl, nothing, hnames, rfl⟩
      exact ⟨rfl, hnames⟩
    · rintro ⟨hparts, hnames⟩
      obtain ⟨rfl, rfl⟩ : headPart = .prolog schema.version schema.settings ∧
          bodyPart = .body schema.columns schema.slots := by
        simpa using hparts
      exact ⟨(schema.version, schema.settings), rfl, (schema.columns, schema.slots), rfl, (),
        hnames, rfl⟩
  · rename_i hshape
    constructor
    · intro h
      cases h
    · rintro ⟨rfl, -⟩
      exact absurd rfl (hshape _ _)

theorem respects_reduceSchema {schema : Schema} (h : reduceSchema parts = .ok schema) :
    Respects (fun _ parts => (reduceSchema parts).map .schema) 0 true slot parts
      (.schema schema) := by
  obtain ⟨rfl, hnames⟩ := (reduceSchema_eq_ok_iff schema).1 h
  refine ⟨by simp [Part.slots], ?_, by simp, fun f => ?_⟩
  · rintro total hmem
    cases hmem
    exact .inr ⟨.body schema.columns schema.slots, by simp, rfl⟩
  · refine map_eq_ok.2 ⟨schema.mapSlots f, (reduceSchema_eq_ok_iff _).2 ⟨rfl, ?_⟩, rfl⟩
    exact (checkColumnNames_mapSlots schema.settings f [] schema.columns).trans hnames

theorem reduceStart_eq_ok_iff (schema : Schema) :
    reduceStart parts = .ok schema ↔ parts = [.schema schema] := by
  match parts with
  | [] => simp [reduceStart, wrongCount]
  | [part] => simp [reduceStart, Part.asSchema_eq_ok_iff]
  | _ :: _ :: _ => simp [reduceStart, wrongCount]

theorem respects_reduceStart {schema : Schema} (h : reduceStart parts = .ok schema) :
    Respects (fun _ parts => (reduceStart parts).map .schema) 0 true slot parts
      (.schema schema) := by
  obtain rfl := (reduceStart_eq_ok_iff schema).1 h
  exact ⟨by simp, fun total hmem => .inr ⟨_, by simp, hmem⟩, by simp, fun f => rfl⟩

/-- A part of the columns that held only a comment counts as a comment itself. -/
theorem reduceBodyPart_eq_ok_iff (part : Part) :
    reduceBodyPart parts = .ok part ↔ parts = [] ∧ part = .comment ∨ parts = [part] := by
  match parts with
  | [] => simp [reduceBodyPart, eq_comm]
  | [inner] => simp [reduceBodyPart]
  | _ :: _ :: _ => simp [reduceBodyPart, wrongCount]

theorem respects_reduceBodyPart {part : Part} (h : reduceBodyPart parts = .ok part) :
    Respects (fun _ => reduceBodyPart) 0 true slot parts part := by
  rcases (reduceBodyPart_eq_ok_iff part).1 h with ⟨rfl, rfl⟩ | rfl
  · exact ⟨rfl, by simp [Part.total?], by simp, fun f => rfl⟩
  · exact ⟨by simp, fun total hmem => .inr ⟨_, by simp, hmem⟩, by simp, fun f => rfl⟩

end CsvSchema
