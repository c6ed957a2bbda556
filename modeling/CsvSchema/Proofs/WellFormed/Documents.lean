import CsvSchema.Proofs.WellFormed.Checks
import CsvSchema.Proofs.Slots.Numbering

/-!
# Schemas that build are well formed

The settings of the file are collected one by one and are well formed at every moment, but for the
two that exclude each other, which are compared at the end.  With the checks and the columns, every
node makes something well formed of well-formed parts, `NodeKind.wellFormed_reduce`, and so does a
whole tree, `Schema.wellFormed_of_ofTree`.
-/

namespace CsvSchema

open Fallible

variable {parts : List Part}

section Settings

theorem isSeparator_of_readSeparator {raw : String} {mark : Char}
    (h : readSeparator raw = .ok mark) : IsSeparator mark := by
  unfold readSeparator at h
  simp only at h
  split at h
  · cases h
    exact ⟨by decide, by decide, by decide⟩
  · split at h
    · split at h
      · rename_i hmark
        cases h
        simp only [Bool.and_eq_true, decide_eq_true_eq, bne_iff_ne, ne_eq] at hmark
        exact ⟨hmark.1.1, hmark.1.2, hmark.2⟩
      · cases h
    · cases h

theorem one_le_of_readTotalColumns {raw : String} {total : Nat}
    (h : readTotalColumns raw = .ok total) : 1 ≤ total := by
  unfold readTotalColumns at h
  split at h
  · cases h
    exact Nat.succ_le_succ (Nat.zero_le _)
  · cases h

theorem wellFormed_of_reduceSetting {directive : GlobalDirective} {setting : GlobalSetting}
    (h : reduceSetting directive parts = .ok setting) : setting.WellFormed := by
  cases directive with
  | separator =>
      obtain ⟨raw, -, hread⟩ := reduceValued_eq_ok_iff.1 h
      obtain ⟨mark, hmark, rfl⟩ := map_eq_ok.1 hread
      exact isSeparator_of_readSeparator hmark
  | totalColumns =>
      obtain ⟨raw, -, hread⟩ := reduceValued_eq_ok_iff.1 h
      obtain ⟨total, htotal, rfl⟩ := map_eq_ok.1 hread
      exact one_le_of_readTotalColumns htotal
  | _ =>
      obtain ⟨-, rfl⟩ := reduceFlag_eq_ok_iff.1 h
      trivial

/-- Settings that are well formed but for those that exclude each other. -/
structure FileSettings.PartlyWellFormed (settings : FileSettings) : Prop where
  separator : IsSeparator settings.separator
  totalColumns : ∀ total ∈ settings.totalColumns, 1 ≤ total

namespace FileSettings.PartlyWellFormed

variable {settings : FileSettings}

theorem initial : FileSettings.initial.PartlyWellFormed where
  separator := ⟨by decide, by decide, by decide⟩
  totalColumns total h := by cases h

theorem apply (h : settings.PartlyWellFormed) {setting : GlobalSetting}
    (hsetting : setting.WellFormed) : (setting.apply settings).PartlyWellFormed := by
  cases setting with
  | separator mark => exact ⟨hsetting, h.totalColumns⟩
  | totalColumns total =>
      refine ⟨h.separator, fun other hother => ?_⟩
      cases hother
      exact hsetting
  | _ => exact ⟨h.separator, h.totalColumns⟩

theorem wellFormed (h : settings.PartlyWellFormed)
    (hheader : (settings.noHeader && settings.ignoreColumnNameCase) = false) :
    settings.WellFormed where
  separator := h.separator
  totalColumns := h.totalColumns
  header := by
    rintro ⟨hno, hcase⟩
    simp [hno, hcase] at hheader

end FileSettings.PartlyWellFormed

theorem FileSettings.wellFormed_initial : FileSettings.initial.WellFormed :=
  PartlyWellFormed.initial.wellFormed rfl

theorem partlyWellFormed_of_foldlM_addSetting {state result : FileSettings × List GlobalDirective}
    (hparts : ∀ p ∈ parts, p.WellFormed) (hstate : state.1.PartlyWellFormed)
    (h : parts.foldlM addSetting state = .ok result) : result.1.PartlyWellFormed := by
  induction parts generalizing state with
  | nil =>
      cases h
      exact hstate
  | cons part rest ih =>
      obtain ⟨hpart, hrest⟩ := List.forall_mem_cons.1 hparts
      obtain ⟨next, hnext, hfold⟩ := bind_eq_ok.1 h
      refine ih hrest ?_ hfold
      obtain ⟨setting, hsetting, hadd⟩ := bind_eq_ok.1 hnext
      split at hadd
      · simp only [throw_eq_ok] at hadd
      · rw [← pure_eq_ok.1 hadd]
        exact hstate.apply (Part.wellFormed_of_asSetting hsetting hpart)

theorem wellFormed_of_reduceSettings {settings : FileSettings}
    (hparts : ∀ p ∈ parts, p.WellFormed) (h : reduceSettings parts = .ok settings) :
    settings.WellFormed := by
  obtain ⟨state, hstate, hsettings⟩ := bind_eq_ok.1 h
  have hpartly := partlyWellFormed_of_foldlM_addSetting hparts .initial hstate
  simp only at hsettings
  split at hsettings
  · simp only [throw_eq_ok] at hsettings
  · rename_i hheader
    rw [← pure_eq_ok.1 hsettings]
    exact hpartly.wellFormed (Bool.eq_false_iff.2 hheader)

theorem wellFormed_of_reduceProlog {part : Part} (hparts : ∀ p ∈ parts, p.WellFormed)
    (h : reduceProlog parts = .ok part) : part.WellFormed := by
  obtain ⟨raw, version, tail, settings, htail, rfl, rfl⟩ := of_reduceProlog h
  cases htail with
  | omitted => exact FileSettings.wellFormed_initial
  | given settings => exact hparts (.settings settings) (by simp)

end Settings

section Columns

theorem wellFormed_of_reduceRule {rule : ColumnRule} (hparts : ∀ p ∈ parts, p.WellFormed)
    (h : reduceRule parts = .ok rule) : rule.WellFormed := by
  obtain ⟨tail, -, rfl⟩ := of_reduceRule h
  exact wellFormed_of_map_check (List.forall_mem_append.1 hparts).1

theorem wellFormed_of_reduceColumn {column : ColumnDefinition}
    (hparts : ∀ p ∈ parts, p.WellFormed) (h : reduceColumn parts = .ok column) :
    column.WellFormed := by
  obtain ⟨raw, rfl, -, hname⟩ := (reduceColumn_eq_ok_iff column).1 h
  exact ⟨hname, hparts (.rule column.rule) (by simp)⟩

theorem wellFormed_of_reduceBody {slot : Nat} {part : Part} (hparts : ∀ p ∈ parts, p.WellFormed)
    (h : reduceBody slot parts = .ok part) : part.WellFormed := by
  obtain ⟨columns, hcolumns, hpart⟩ := bind_eq_ok.1 h
  rw [← pure_eq_ok.1 hpart]
  rw [mapM_asColumn_eq_ok_iff] at hcolumns
  subst hcolumns
  exact fun column hcolumn => hparts (.column column) (List.mem_map_of_mem hcolumn)

/-- Names that pass have different keys, which also differ from those seen before. -/
theorem nodup_of_checkColumnNames {settings : FileSettings} {seen : List String}
    {columns : List ColumnDefinition} (h : checkColumnNames settings seen columns = .ok ()) :
    (columns.map fun column => settings.columnKey column.name).Nodup ∧
      ∀ column ∈ columns, settings.columnKey column.name ∉ seen := by
  induction columns generalizing seen with
  | nil => simp
  | cons column rest ih =>
      unfold checkColumnNames at h
      split at h
      · cases h
      · rename_i hseen
        rw [List.contains_iff_mem] at hseen
        obtain ⟨hnodup, hfresh⟩ := ih h
        rw [List.map_cons, List.nodup_cons]
        refine ⟨⟨fun hmem => ?_, hnodup⟩, List.forall_mem_cons.2 ⟨hseen, fun other hother => ?_⟩⟩
        · obtain ⟨other, hother, heq⟩ := List.mem_map.1 hmem
          exact hfresh other hother (heq ▸ List.mem_cons_self)
        · exact fun hmem => hfresh other hother (List.mem_cons_of_mem _ hmem)

theorem wellFormed_of_reduceSchema {schema : Schema} (hparts : ∀ p ∈ parts, p.WellFormed)
    (h : reduceSchema parts = .ok schema) : schema.WellFormed := by
  obtain ⟨rfl, hnames⟩ := (reduceSchema_eq_ok_iff schema).1 h
  have hsettings := hparts (.prolog schema.version schema.settings) (by simp)
  have hcolumns := hparts (.body schema.columns schema.slots) (by simp)
  exact ⟨hsettings, hcolumns, (nodup_of_checkColumnNames hnames).1⟩

theorem wellFormed_of_reduceStart {schema : Schema} (hparts : ∀ p ∈ parts, p.WellFormed)
    (h : reduceStart parts = .ok schema) : schema.WellFormed := by
  obtain rfl := (reduceStart_eq_ok_iff schema).1 h
  exact hparts (.schema schema) (by simp)

theorem wellFormed_of_reduceBodyPart {part : Part} (hparts : ∀ p ∈ parts, p.WellFormed)
    (h : reduceBodyPart parts = .ok part) : part.WellFormed := by
  rcases (reduceBodyPart_eq_ok_iff part).1 h with ⟨-, rfl⟩ | rfl
  · trivial
  · exact hparts part (by simp)

end Columns

section Nodes

theorem NodeKind.wellFormed_of_ofTag? {tag : String} {kind : NodeKind}
    (h : ofTag? tag = some kind) : kind.WellFormed := by
  have htags : ∀ entry ∈ tags, entry.2.WellFormed := by
    simp [tags, GlobalDirective.all, ColumnDirective.all, NodeKind.WellFormed,
      ValueTest.WellFormed]
  exact htags (tag, kind) (mem_tags_of_ofTag? h)

/-- What is read into something well formed makes a well-formed part. -/
theorem wellFormed_of_map {α : Type} {action : Except Fault α} {make : α → Part} {part : Part}
    (h : action.map make = .ok part) (hmake : ∀ a, action = .ok a → (make a).WellFormed) :
    part.WellFormed := by
  obtain ⟨a, ha, rfl⟩ := map_eq_ok.1 h
  exact hmake a ha

/-- A node makes something well formed of well-formed parts. -/
theorem NodeKind.wellFormed_reduce {kind : NodeKind} {slot : Nat} {part : Part}
    (hkind : kind.WellFormed) (hparts : ∀ p ∈ parts, p.WellFormed)
    (h : kind.reduce slot parts = .ok part) : part.WellFormed := by
  cases kind with
  | comment =>
      cases h
      trivial
  | body => exact wellFormed_of_reduceBody hparts h
  | bodyPart => exact wellFormed_of_reduceBodyPart hparts h
  | prolog => exact wellFormed_of_reduceProlog hparts h
  | columnDirective directive =>
      obtain ⟨-, rfl⟩ := reduceFlag_eq_ok_iff.1 h
      trivial
  | check =>
      obtain ⟨check, rfl, rfl⟩ := reduce_check_eq_ok_iff.1 h
      exact hparts (.check check) (by simp)
  | start => exact wellFormed_of_map h fun _ => wellFormed_of_reduceStart hparts
  | schema => exact wellFormed_of_map h fun _ => wellFormed_of_reduceSchema hparts
  | settings => exact wellFormed_of_map h fun _ => wellFormed_of_reduceSettings hparts
  | column => exact wellFormed_of_map h fun _ => wellFormed_of_reduceColumn hparts
  | rule => exact wellFormed_of_map h fun _ => wellFormed_of_reduceRule hparts
  | columnSettings => exact wellFormed_of_map h fun _ _ => trivial
  | single => exact wellFormed_of_map h fun _ => wellFormed_of_reduceSingle hparts
  | parenthesized =>
      refine wellFormed_of_map h fun checks hchecks => ?_
      obtain ⟨hne, hwell⟩ := wellFormed_of_reduceChecks hparts hchecks
      exact .parenthesized hne hwell
  | comparison _ | any | regex | range | length | plain _ | identical | unique | dateTime
  | zonedDateTime | date | time | ukDate | composedDate | partialDate | fileExists | integrity
  | checksum | fileCount =>
      obtain ⟨atom, hatom, rfl⟩ := readsAtom_of_reduce rfl h
      exact .atom (hatom.wellFormed hparts hkind)
  | or =>
      exact wellFormed_of_map h fun _ =>
        wellFormed_of_reduceLogical hparts fun _ hlength hchecks => .or hlength hchecks
  | and =>
      exact wellFormed_of_map h fun _ =>
        wellFormed_of_reduceLogical hparts fun _ hlength hchecks => .and hlength hchecks
  | conditional => exact wellFormed_of_map h fun _ => wellFormed_of_reduceConditional hparts
  | clause => exact wellFormed_of_map h fun _ => wellFormed_of_reduceChecks hparts
  | switch => exact wellFormed_of_map h fun _ => wellFormed_of_reduceSwitch hparts
  | switchCase => exact wellFormed_of_map h fun _ => wellFormed_of_reduceCase hparts
  | provided | reference | concat | noExtension | uriDecode | file =>
      obtain ⟨operand, hoperand, rfl⟩ := readsOperand_of_reduce rfl h
      exact hoperand.wellFormed hparts
  | setting directive => exact wellFormed_of_map h fun _ => wellFormed_of_reduceSetting

/-- So does a tag: a wrapper of the grammar stands for its only part. -/
theorem wellFormed_of_reduceTag {tag : String} {slot next : Nat} {part : Part}
    (h : reduceTag tag slot parts = .ok (part, next)) (hparts : ∀ p ∈ parts, p.WellFormed) :
    part.WellFormed := by
  rcases of_reduceTag h with ⟨kind, hkind, hmade, -⟩ | ⟨-, rfl, -⟩
  · exact NodeKind.wellFormed_reduce (NodeKind.wellFormed_of_ofTag? hkind) hparts hmade
  · exact hparts part (by simp)

/-- And so does a whole tree, and every tree below it. -/
theorem wellFormed_of_reduceChild {room slot next : Nat} {child : Child} {part : Part}
    (h : reduceChild room slot child = .ok (part, next)) : part.WellFormed :=
  forall_of_reduceChild (fun _ => trivial)
    (fun htag _ hparts => wellFormed_of_reduceTag htag hparts) h

end Nodes

namespace Schema

section Built

variable {tree : Node} {schema : Schema} (h : ofTree tree = .ok schema)
include h

/-- No two columns of a schema that builds go by the same name. -/
theorem nodup_columnKeys_of_ofTree : schema.columnKeys.Nodup := by
  obtain ⟨next, hpart⟩ := ofTree_eq_ok.1 h
  have hschema : schema.WellFormed := wellFormed_of_reduceChild hpart
  exact hschema.keys

theorem isSeparator_of_ofTree : IsSeparator schema.settings.separator := by
  obtain ⟨next, hpart⟩ := ofTree_eq_ok.1 h
  have hschema : schema.WellFormed := wellFormed_of_reduceChild hpart
  exact hschema.settings.separator

end Built

/-- Every schema that builds is well formed, whatever the tree that it is read from. -/
theorem wellFormed_of_ofTree {tree : Node} {schema : Schema} (h : ofTree tree = .ok schema) :
    schema.WellFormed := by
  obtain ⟨next, hpart⟩ := ofTree_eq_ok.1 h
  exact wellFormed_of_reduceChild hpart

/-- The tree of a schema with a directive, a check alone for a clause and a token alone for an
operand. -/
def treeOfBareParts : Node :=
  let leaf (tag : String) : Child := .node tag [] none
  let reference : Child := .node "column_ref" [.token "$b"] none
  let joined : Child := .node "concat_expr" [reference, .token "\"x\""] none
  let between : Child := .node "length_expr" [.token "1", .token "*"] none
  let condition : Child := .node "is_expr" [joined] none
  let chosen : Child := .node "if_expr" [condition, between, .node "if_clause" [leaf "uri_expr"] none]
    none
  let either : Child := .node "or_expr" [chosen, .node "parenthesized_expr" [leaf "empty_expr"] none]
    none
  ⟨"schema", [.node "prolog" [.token "version 1.0",
      .node "global_directives" [.node "total_columns_directive" [.token "2"] none] none] none,
    .node "body" [
      .node "column_definition" [.token "a:", .node "column_rule" [either] none] none,
      .node "column_definition" [.token "b:", .node "column_rule" [] none] none] none], none⟩

/-- The check alone has become a clause of one check, and the token alone a literal. -/
theorem wellFormed_of_bare_parts :
    ∃ schema, ofTree treeOfBareParts = .ok schema ∧ schema.WellFormed ∧
      schema.columns.map (·.rule.checks) =
        [[.or [.conditional (.atom (.compare .is (.concat [.column "b", .literal "x"])))
            [.atom (.value (.length (.between ⟨some 1, none⟩)))] (some [.atom (.value .uri)]),
          .parenthesized [.atom (.value .empty)]]], []] := by
  let rule : List Check :=
    [.or [.conditional (.atom (.compare .is (.concat [.column "b", .literal "x"])))
        [.atom (.value (.length (.between ⟨some 1, none⟩)))] (some [.atom (.value .uri)]),
      .parenthesized [.atom (.value .empty)]]]
  let schema : Schema := ⟨.v10, { FileSettings.initial with totalColumns := some 2 },
    [⟨"a", ⟨rule, .initial⟩⟩, ⟨"b", ⟨[], .initial⟩⟩], 0⟩
  have h : ofTree treeOfBareParts = .ok schema := by with_unfolding_all rfl
  exact ⟨schema, h, wellFormed_of_ofTree h, rfl⟩

end Schema

end CsvSchema
