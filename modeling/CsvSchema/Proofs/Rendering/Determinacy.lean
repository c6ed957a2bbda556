import CsvSchema.Compilation
import CsvSchema.Proofs.Independence.Columns
import CsvSchema.Proofs.Rendering.Lines
import CsvSchema.Proofs.Rendering.Reading
import CsvSchema.Proofs.Slots.Renumbering

/-!
# What the text of a schema determines

Two schemas that build and have the same text return the same results, whatever trees they come
from, if their texts show where names, texts and combinations end: `Schema.validate_eq_of_text_eq`.
Their columns are written alike, so after the gaps between slots are closed their checks are alike
one by one.  Where a name may hold what stands behind names, a text can be that of two different
schemas: `Schema.validate_ne_of_unquoted_name`.
-/

namespace CsvSchema

open List (Forall₂)

namespace ColumnDefinition

variable {column column₁ column₂ : ColumnDefinition}

/-- Two columns with the same name and directives have checks that are alike. -/
structure Alike (column₁ column₂ : ColumnDefinition) : Prop where
  name : column₁.name = column₂.name
  settings : column₁.rule.settings = column₂.rule.settings
  checks : Forall₂ Check.Alike column₁.rule.checks column₂.rule.checks

section Judging

variable (environment : Environment) (row : Row)

theorem Alike.judgeCheck (h : Alike column₁ column₂) (value : String) {check₁ check₂ : Check}
    (hcheck : check₁.Alike check₂) :
    column₁.judgeCheck environment row value check₁ =
      column₂.judgeCheck environment row value check₂ := by
  have hscope : column₁.scope environment row = column₂.scope environment row := by
    rw [scope, scope, h.name, h.settings]
  have hnotes : column₁.verdictNotes check₁ value = column₂.verdictNotes check₂ value := by
    funext verdict
    simp only [verdictNotes, note, Session.matchText, h.name, h.settings, hcheck.text]
  rw [ColumnDefinition.judgeCheck, ColumnDefinition.judgeCheck, hscope, hnotes, hcheck.evaluate]

/-- Columns that are alike have the same to say about a row. -/
theorem Alike.judge (h : Alike column₁ column₂) :
    column₁.judge environment row = column₂.judge environment row := by
  have hchecks : ∀ value, column₁.rule.checks.mapM (column₁.judgeCheck environment row value) =
      column₂.rule.checks.mapM (column₂.judgeCheck environment row value) := by
    intro value
    have hpairs := h.checks
    generalize column₁.rule.checks = checks₁ at hpairs
    generalize column₂.rule.checks = checks₂ at hpairs
    induction hpairs with
    | nil => rfl
    | cons hcheck _ ih =>
        rw [List.mapM_cons, List.mapM_cons, ih, h.judgeCheck environment row value hcheck]
  have hmissing : column₁.note (Session.missingText column₁.name) =
      column₂.note (Session.missingText column₂.name) := by
    simp only [note, h.name, h.settings]
  simp only [ColumnDefinition.judge, h.name, h.settings, hchecks, ← hmissing]

end Judging

/-- Columns that are written alike, and that take their slots off the same ones, are alike. -/
theorem alike_of_writtenAlike (h : WrittenAlike column₁ column₂)
    (h₁ : ∀ check ∈ column₁.rule.checks, check.ComesBack)
    (h₂ : ∀ check ∈ column₂.rule.checks, check.ComesBack) {slots₁ slots₂ : List Nat}
    (hslots : column₁.rule.slots ++ slots₁ = column₂.rule.slots ++ slots₂) :
    Alike column₁ column₂ ∧ slots₁ = slots₂ := by
  obtain ⟨hchecks, hrest⟩ := alike_of_phrases_eq h₁ h₂ h.phrases hslots
  exact ⟨⟨h.name, h.settings, hchecks⟩, hrest⟩

/-- The numbers of slots are not written. -/
theorem WrittenAlike.mapSlots (h : WrittenAlike column₁ column₂) (f₁ f₂ : Nat → Nat) :
    WrittenAlike (column₁.mapSlots f₁) (column₂.mapSlots f₂) where
  name := h.name
  settings := h.settings
  phrases := (clausePhrases_mapCheckSlots f₁ _).trans
    (h.phrases.trans (clausePhrases_mapCheckSlots f₂ _).symm)

end ColumnDefinition

section Columns

open ColumnDefinition

variable {columns₁ columns₂ : List ColumnDefinition}

theorem forall₂_alike_of_writtenAlike (h : Forall₂ WrittenAlike columns₁ columns₂)
    (h₁ : ∀ column ∈ columns₁, ∀ check ∈ column.rule.checks, check.ComesBack)
    (h₂ : ∀ column ∈ columns₂, ∀ check ∈ column.rule.checks, check.ComesBack)
    {slots₁ slots₂ : List Nat}
    (hslots : columnSlots columns₁ ++ slots₁ = columnSlots columns₂ ++ slots₂) :
    Forall₂ ColumnDefinition.Alike columns₁ columns₂ := by
  induction h with
  | nil => exact .nil
  | cons hcolumn _ ih =>
      rw [List.forall_mem_cons] at h₁ h₂
      rw [columnSlots, columnSlots, List.flatMap_cons, List.flatMap_cons, List.append_assoc,
        List.append_assoc] at hslots
      obtain ⟨halike, hrest⟩ := alike_of_writtenAlike hcolumn h₁.1 h₂.1 hslots
      exact .cons halike (ih h₁.2 h₂.2 hrest)

theorem judgeColumns_congr (h : Forall₂ ColumnDefinition.Alike columns₁ columns₂)
    (environment : Environment) (row : Row) :
    judgeColumns environment row columns₁ = judgeColumns environment row columns₂ := by
  have hnotes : columns₁.mapM (fun column => column.judge environment row) =
      columns₂.mapM fun column => column.judge environment row := by
    induction h with
    | nil => rfl
    | cons hcolumn _ ih => rw [List.mapM_cons, List.mapM_cons, ih, hcolumn.judge]
  rw [judgeColumns, judgeColumns, hnotes]

theorem map_name_congr (h : Forall₂ WrittenAlike columns₁ columns₂) :
    columns₁.map (·.name) = columns₂.map (·.name) := by
  induction h with
  | nil => rfl
  | cons hcolumn _ ih => rw [List.map_cons, List.map_cons, hcolumn.name, ih]

end Columns

namespace Schema

variable {schema schema₁ schema₂ : Schema}

/-- The checks of a schema that has been built and has a legible text come back, whatever their
slots are. -/
theorem IsBuilt.comesBack (h : schema.IsBuilt) (hlegible : schema.IsLegible) (f : Nat → Nat) :
    ∀ column ∈ (schema.mapSlots f).columns, ∀ check ∈ column.rule.checks, check.ComesBack := by
  intro renamed hmem
  obtain ⟨column, hcolumn, rfl⟩ := List.mem_map.1 hmem
  refine forall_comesBack f (h.wellFormed.columns column hcolumn).rule
    (hlegible column hcolumn).checks fun atom hatom => ?_
  exact h.isRead atom (List.mem_flatMap.2 ⟨column, hcolumn, hatom⟩)

section Runs

/-- What two schemas have in common that have the same text. -/
structure SameRuns (schema₁ schema₂ : Schema) : Prop where
  settings : schema₁.settings = schema₂.settings
  names : schema₁.columns.map (·.name) = schema₂.columns.map (·.name)
  judgeRun : ∀ options storage records,
    schema₁.judgeRun options storage records = schema₂.judgeRun options storage records

/-- Schemas with the same text have the same to say about any records. -/
theorem sameRuns_of_text_eq (h₁ : schema₁.IsBuilt) (h₂ : schema₂.IsBuilt)
    (hlegible₁ : schema₁.IsLegible) (hlegible₂ : schema₂.IsLegible)
    (h : schema₁.text = schema₂.text) : SameRuns schema₁ schema₂ := by
  obtain ⟨hsettings, hwritten⟩ :=
    writtenAlike_of_text_eq h₁.wellFormed h₂.wellFormed hlegible₁ hlegible₂ h
  have hnames := map_name_congr hwritten
  refine ⟨hsettings, hnames, fun options storage records => ?_⟩
  -- Without gaps both schemas take their slots off the same list of numbers.
  have hcompact : Forall₂ ColumnDefinition.WrittenAlike schema₁.compact.columns
      schema₂.compact.columns := by
    rw [compact, compact, mapSlots, mapSlots, List.forall₂_map_left_iff, List.forall₂_map_right_iff]
    exact hwritten.imp fun _ _ hcolumn => hcolumn.mapSlots _ _
  have hslots : ∃ slots₁ slots₂, columnSlots schema₁.compact.columns ++ slots₁ =
      columnSlots schema₂.compact.columns ++ slots₂ := by
    rw [columnSlots_compact h₁.increasing, columnSlots_compact h₂.increasing]
    generalize (columnSlots schema₁.columns).length = count₁
    generalize (columnSlots schema₂.columns).length = count₂
    refine ⟨List.range' count₁ count₂, List.range' count₂ count₁, ?_⟩
    have hrange : ∀ count more, List.range count ++ List.range' count more =
        List.range (count + more) := by
      intro count more
      have happend := @List.range'_append_1 0 count more
      rwa [Nat.zero_add, ← List.range_eq_range', ← List.range_eq_range'] at happend
    rw [hrange, hrange, Nat.add_comm]
  obtain ⟨slots₁, slots₂, hslots⟩ := hslots
  have halike := forall₂_alike_of_writtenAlike hcompact (h₁.comesBack hlegible₁ _)
    (h₂.comesBack hlegible₂ _) hslots
  have hcompactSettings : schema₁.compact.settings = schema₂.compact.settings := hsettings
  have hkeys : schema₁.compact.columnKeys = schema₂.compact.columnKeys := by
    rw [compact, compact, columnKeys_mapSlots, columnKeys_mapSlots]
    exact columnKeys_congr hsettings hnames
  have hrun : schema₁.compact.judgeRun options storage records =
      schema₂.compact.judgeRun options storage records :=
    judgeRun_congr hcompactSettings hkeys (judgeColumns_congr halike) options storage records
  rwa [judgeRun_compact h₁.increasing, judgeRun_compact h₂.increasing] at hrun

variable (h : SameRuns schema₁ schema₂)
include h

theorem SameRuns.outcomeOf (options : Options) (storage : Storage) (records : List (List String)) :
    schema₁.outcomeOf options storage records = schema₂.outcomeOf options storage records := by
  have hnotes : schema₁.outcomeOfNotes records = schema₂.outcomeOfNotes records := by
    funext notes
    simp only [outcomeOfNotes, permits, noteEmpty, headerLine, h.settings]
    rfl
  rw [outcomeOf_eq, outcomeOf_eq, hnotes, h.judgeRun]

theorem SameRuns.run (options : Options) (storage : Storage) (header : Option (List String))
    (records : List (Except RunError (List String))) :
    schema₁.run options storage header records = schema₂.run options storage header records := by
  have houtcome : schema₁.outcomeOf options storage = schema₂.outcomeOf options storage :=
    funext (h.outcomeOf options storage)
  rw [Schema.run, Schema.run, checkStart_congr h.settings h.names, houtcome]

theorem SameRuns.validateFile (options : Options) (storage : Storage)
    (records : List (Except RunError (List String))) :
    schema₁.validateFile options storage records =
      schema₂.validateFile options storage records := by
  simp only [Schema.validateFile, h.settings, h.run]

end Runs

/-- The text of a schema determines what it checks.  Two schemas that were built from any trees,
with the same text that shows where its parts end, return the same result for every header and
records, and for every file. -/
theorem validate_eq_of_text_eq {tree₁ tree₂ : Node} (h₁ : ofTree tree₁ = .ok schema₁)
    (h₂ : ofTree tree₂ = .ok schema₂) (hlegible₁ : schema₁.IsLegible)
    (hlegible₂ : schema₂.IsLegible) (h : schema₁.text = schema₂.text) (options : Options)
    (storage : Storage) :
    (∀ header records, schema₁.validateRecords options storage header records =
      schema₂.validateRecords options storage header records) ∧
    ∀ path, schema₁.validatePath options storage path =
      schema₂.validatePath options storage path := by
  have hruns := sameRuns_of_text_eq (isBuilt_of_ofTree h₁) (isBuilt_of_ofTree h₂) hlegible₁
    hlegible₂ h
  refine ⟨fun header records => ?_, fun path => ?_⟩
  · simp only [validateRecords, hruns.settings, hruns.run]
  · simp only [validatePath, validateBytes, hruns.settings, hruns.validateFile]

/-- The tree of a schema from what its body holds. -/
def treeOfBody (children : List Child) : Node :=
  ⟨"schema", [.node "prolog" [.token "version 1.0"] none, .node "body" children none], none⟩

/-- The tree of a column with one check, or with none. -/
def childOfColumn (name : String) (checks : List Child) : Child :=
  .node "column_definition" [.token name, .node "column_rule" checks none] none

/-- Alternatives in a combination of combinations, and in a single one behind a comment that takes a
slot. -/
theorem validate_eq_of_text_eq_of_alternatives :
    let leaf (tag : String) : Child := .node tag [] none
    let inner : Child := .node "or_expr" [leaf "empty_expr", leaf "identical_expr"] none
    let nested : Node :=
      treeOfBody [childOfColumn "a:" [.node "or_expr" [leaf "unique_expr", inner] none]]
    let flat : Node := treeOfBody [.node "comment" [leaf "unique_expr"] none, childOfColumn "a:"
      [.node "or_expr" [leaf "unique_expr", leaf "empty_expr", leaf "identical_expr"] none]]
    ∃ schema₁ schema₂, ofTree nested = .ok schema₁ ∧ ofTree flat = .ok schema₂ ∧
      schema₁.IsLegible ∧ schema₂.IsLegible ∧ schema₁.text = schema₂.text ∧
      columnSlots schema₁.columns = [0, 1] ∧ columnSlots schema₂.columns = [1, 2] ∧
      ∀ header records,
        schema₁.validateRecords .initial MemoryStorage.empty.toStorage header records =
          schema₂.validateRecords .initial MemoryStorage.empty.toStorage header records := by
  intro leaf inner nested flat
  let schema (check : Check) (slots : Nat) : Schema :=
    ⟨.v10, .initial, [⟨"a", ⟨[check], .initial⟩⟩], slots⟩
  let check₁ : Check := .or [.atom (.unique [] 0),
    .or [.atom (.value .empty), .atom (.identical 1)]]
  let check₂ : Check := .or [.atom (.unique [] 1), .atom (.value .empty), .atom (.identical 2)]
  have h₁ : ofTree nested = .ok (schema check₁ 2) := by with_unfolding_all rfl
  have h₂ : ofTree flat = .ok (schema check₂ 3) := by with_unfolding_all rfl
  have hunique : ∀ slot, (Check.atom (.unique [] slot)).IsLegible := by
    intro slot
    refine .atom ⟨by simp [Atom.operands], (fun columns _ heq => ?_), fun _ heq => by cases heq⟩
    cases heq
    simp
  have hidentical : ∀ slot, (Check.atom (.identical slot)).IsLegible := fun slot =>
    .atom ⟨by simp [Atom.operands], (fun _ _ heq => by cases heq), fun _ heq => by cases heq⟩
  have hempty : (Check.atom (.value .empty)).IsLegible := by
    refine .atom ⟨by simp [Atom.operands], (fun _ _ heq => by cases heq), fun test heq => ?_⟩
    cases heq
    trivial
  have hlegible : ∀ {check : Check} {slots : Nat}, check.IsLegible →
      (schema check slots).IsLegible := by
    intro check slots h column hcolumn
    cases List.mem_singleton.1 hcolumn
    have hname : '"' ∉ "a".toList := by decide
    exact ⟨hname, List.forall_mem_singleton.2 h⟩
  have hlegible₁ : (schema check₁ 2).IsLegible := by
    have hinner : (Check.or [.atom (.value .empty), .atom (.identical 1)]).IsLegible :=
      .or (by simpa using ⟨hempty, hidentical 1⟩) (by simp [Check.isCombination])
    exact hlegible (.or (by simpa using ⟨hunique 0, hinner⟩) (by simp [Check.isCombination]))
  have hlegible₂ : (schema check₂ 3).IsLegible :=
    hlegible (.or (by simpa using ⟨hunique 1, hempty, hidentical 2⟩)
      (by simp [Check.isCombination]))
  have htext : (schema check₁ 2).text = (schema check₂ 3).text := by decide
  exact ⟨_, _, h₁, h₂, hlegible₁, hlegible₂, htext, by decide, by decide,
    (validate_eq_of_text_eq h₁ h₂ hlegible₁ hlegible₂ htext .initial _).1⟩

/-- A reference to a column whose name looks like two references is written like these two. -/
theorem validate_ne_of_unquoted_name :
    let reference (text : String) : Child := .node "column_ref" [.token text] none
    let tree (references : List Child) : Node :=
      treeOfBody [childOfColumn "a:" [], childOfColumn "b:" [],
        childOfColumn "c:" [.node "unique_expr" references none]]
    let validate (schema : Schema) :=
      schema.validateRecords .initial MemoryStorage.empty.toStorage (some ["a", "b", "c"])
        [["1", "2", "3"]]
    ∃ schema₁ schema₂, ofTree (tree [reference "$\"a, $b\""]) = .ok schema₁ ∧
      ofTree (tree [reference "$a", reference "$b"]) = .ok schema₂ ∧
      schema₁.text = schema₂.text ∧ validate schema₁ ≠ validate schema₂ := by
  intro reference tree validate
  let schema (names : List String) : Schema := ⟨.v10, .initial, [⟨"a", ⟨[], .initial⟩⟩,
    ⟨"b", ⟨[], .initial⟩⟩, ⟨"c", ⟨[.atom (.unique names 0)], .initial⟩⟩], 1⟩
  have h₁ : ofTree (tree [reference "$\"a, $b\""]) = .ok (schema ["a, $b"]) := by
    with_unfolding_all rfl
  have h₂ : ofTree (tree [reference "$a", reference "$b"]) = .ok (schema ["a", "b"]) := by
    with_unfolding_all rfl
  have hinvalid : (validate (schema ["a, $b"])).map Outcome.valid = .ok false := by rfl
  have hvalid : (validate (schema ["a", "b"])).map Outcome.valid = .ok true := by rfl
  refine ⟨_, _, h₁, h₂, by decide, fun heq => ?_⟩
  rw [heq, hvalid] at hinvalid
  cases hinvalid

end Schema

end CsvSchema
