import CsvSchema.Proofs.Slots.Renumbering

/-!
# Rating the failures of a column

Whether the failures of a column are errors or warnings is never asked while records are judged: it
is only passed on to the notes.  If the failures of one column are rated differently, a run finds
the same notes with those about the column rated differently, `Schema.judgeRun_rated`.
-/

namespace CsvSchema

open Stateful

/-- The severity of something about a column after the failures of one column were rated. -/
def rated (name : String) (severity : Severity) (column : String) (current : Severity) :
    Severity :=
  if column = name then severity else current

section Rated

variable (name : String) (severity : Severity)

/-- A column after the failures of one column were rated. -/
def ColumnDefinition.rated (column : ColumnDefinition) : ColumnDefinition :=
  { column with
    rule.settings.warning :=
      if column.name = name then severity == .warning else column.rule.settings.warning }

/-- A schema after the failures of one column were rated. -/
def Schema.rated (schema : Schema) : Schema :=
  { schema with columns := schema.columns.map (·.rated name severity) }

/-- A note after the failures of one column were rated. -/
def Note.rated (note : Note) : Note :=
  { note with severity := CsvSchema.rated name severity note.column note.severity }

/-- The scope of a check after the failures of one column were rated. -/
def Scope.rated (scope : Scope) : Scope :=
  { scope with severity := CsvSchema.rated name severity scope.column scope.severity }

/-- References after the failures of one column were rated. -/
def References.rated (references : References) : References :=
  { references with
    severity := CsvSchema.rated name severity references.column references.severity }

/-- What is in a slot after the failures of one column were rated. -/
def SlotMemory.rated : SlotMemory → SlotMemory
  | .references named => .references (named.rated name severity)
  | content => content

theorem ColumnDefinition.severity_rated (column : ColumnDefinition) :
    (column.rated name severity).rule.settings.severity =
      CsvSchema.rated name severity column.name column.rule.settings.severity := by
  simp only [ColumnDefinition.rated, ColumnSettings.severity, CsvSchema.rated]
  by_cases hname : column.name = name
  · cases severity <;> simp [hname]
  · simp [hname]

theorem ColumnDefinition.scope_rated (column : ColumnDefinition) (environment : Environment)
    (row : Row) :
    (column.rated name severity).scope environment row =
      (column.scope environment row).rated name severity := by
  rw [scope, severity_rated]
  rfl

theorem ColumnDefinition.note_rated (column : ColumnDefinition) (text : Nat → String) :
    (column.rated name severity).note text = (column.note text).rated name severity := by
  rw [note, severity_rated]
  rfl

theorem ColumnDefinition.verdictNotes_rated (column : ColumnDefinition) (check : Check)
    (value : String) (verdict : Verdict) :
    (column.rated name severity).verdictNotes check value verdict =
      (column.verdictNotes check value verdict).map (Note.rated name severity) := by
  have hmatch : (column.rated name severity).rule.settings.matchIsFalse =
      column.rule.settings.matchIsFalse := rfl
  simp only [verdictNotes, hmatch, note_rated]
  split
  · split <;> rfl
  · cases verdict <;> rfl

end Rated

namespace Memory

variable {name : String} {severity : Severity}

/-- Two memories know the same about files, and the slots of the second one hold what those of the
first one do after the failures of one column were rated. -/
structure Rated (name : String) (severity : Severity) (memory₁ memory₂ : Memory) : Prop where
  probes : memory₁.probes = memory₂.probes
  slots : ∀ slot, memory₂.slots.get? slot =
    (memory₁.slots.get? slot).map (SlotMemory.rated name severity)

theorem rated_start (memoize : Bool) : Rated name severity (start memoize) (start memoize) :=
  ⟨rfl, fun _ => rfl⟩

theorem composes_rated : Composes fun action => Coupled (Rated name severity) action action :=
  ⟨.pure, .bind⟩

theorem coupled_probeRated {α : Type} (question : StateM Probes α) :
    Coupled (Rated name severity) (probe question) (probe question) :=
  coupled_probe (fun _ _ h => h.probes) (fun _ _ _ h => ⟨rfl, h.slots⟩) question

/-- A slot can be used as long as its use does not depend on how failures are rated. -/
theorem coupled_useRated {α : Type} (slot : Nat) {use₁ use₂ : Option SlotMemory → α × SlotMemory}
    (huse : ∀ content, use₂ (content.map (SlotMemory.rated name severity)) =
      ((use₁ content).1, (use₁ content).2.rated name severity)) :
    Coupled (Rated name severity) (useSlot slot use₁) (useSlot slot use₂) := by
  intro memory₁ memory₂ h
  have hused := huse (memory₁.slots.get? slot)
  rw [← h.slots slot] at hused
  refine ⟨?_, h.probes, fun x => ?_⟩
  · change (use₁ _).1 = (use₂ _).1
    rw [hused]
  · rw [get?_useSlot, get?_useSlot, hused]
    split
    · rfl
    · exact h.slots x

theorem coupled_isNewRated (slot : Nat) (key : List String) :
    Coupled (Rated name severity) (isNew slot key) (isNew slot key) := by
  refine coupled_useRated slot fun content => ?_
  match content with
  | none => rfl
  | some (.seen keys) =>
      simp only [Option.map_some, SlotMemory.rated]
      split <;> rfl
  | some (.first value) => rfl
  | some (.references references) => rfl

theorem coupled_firstValueRated (slot : Nat) (value : String) :
    Coupled (Rated name severity) (firstValue slot value) (firstValue slot value) := by
  refine coupled_useRated slot fun content => ?_
  match content with
  | none => rfl
  | some (.seen keys) => rfl
  | some (.first value) => rfl
  | some (.references references) => rfl

theorem coupled_referRated (slot : Nat) (initial : References) (root : Path)
    (path : Option (List PathPart)) :
    Coupled (Rated name severity) (refer slot initial root path)
      (refer slot (initial.rated name severity) root path) := by
  refine coupled_useRated slot fun content => ?_
  match content with
  | none => rfl
  | some (.seen keys) => rfl
  | some (.first value) => rfl
  | some (.references references) => rfl

/-- An atomic check decides in the same way however failures are rated. -/
theorem coupled_ratedAtom (scope : Scope) (atom : Atom) (value : String) :
    Coupled (Rated name severity) (atom.evaluate scope value)
      (atom.evaluate (scope.rated name severity) value) := by
  have hlocate : ∀ text, Coupled (Rated name severity) (scope.locate? text)
      ((scope.rated name severity).locate? text) :=
    composes_locate? composes_rated coupled_probeRated
  have hbelow : ∀ root rule, Coupled (Rated name severity) (findBelow scope value root rule)
      (findBelow (scope.rated name severity) value root rule) :=
    composes_findBelow composes_rated coupled_probeRated value
  -- A check without a slot does not meet what is remembered of folders, where the rating is kept.
  have hother : ∀ atom : Atom, atom.slots = [] →
      Coupled (Rated name severity) (atom.evaluate scope value) (atom.evaluate scope value) := by
    intro atom hslots
    exact composes_atom (p := fun _ => False) composes_rated coupled_probeRated
      (fun _ _ h => h.elim) (fun _ _ h => h.elim) (fun _ _ _ _ h => h.elim) atom
      (by simp [hslots]) value
  cases atom with
  | unique columns slot =>
      have hkey : uniqueKey (scope.rated name severity) value columns =
          uniqueKey scope value columns := rfl
      simp only [Atom.evaluate, findUnique, hkey]
      split
      · exact .pure _
      · exact (coupled_isNewRated slot _).bind fun _ => .pure _
  | identical slot => exact (coupled_firstValueRated slot _).bind fun _ => .pure _
  | integrity folder subfolder rule slot =>
      have hoperand : ∀ default operand, (scope.rated name severity).operandOr default operand =
          scope.operandOr default operand := fun _ _ => rfl
      simp only [Atom.evaluate, findReference, hoperand]
      split
      · exact .pure _
      · refine (hlocate _).bind fun found => ?_
        cases found with
        | none => exact .pure _
        | some root =>
            refine (coupled_referRated slot _ root none).bind fun _ => ?_
            refine (hbelow root rule).bind fun path => ?_
            cases path with
            | error detail => exact .pure _
            | ok path => exact (coupled_referRated slot _ root _).bind fun _ => .pure _
  | any operands =>
      have hany : findAny (scope.rated name severity) value operands =
          findAny scope value operands := by
        refine findAny_congr ?_ ?_ value operands
        · exact fun _ => rfl
        · exact fun _ => rfl
      simp only [Atom.evaluate, hany]
      exact .pure _
  | _ => exact hother _ rfl

theorem coupled_ratedCheck (scope : Scope) (check : Check) (value : String) :
    Coupled (Rated name severity) (check.evaluate scope value)
      (check.evaluate (scope.rated name severity) value) := by
  have hfield : ∀ column, scope.field column = (scope.rated name severity).field column :=
    fun _ => rfl
  have hatom : ∀ (atom : Atom) (value : String), Coupled (Rated name severity)
      ((atom.mapSlots id).evaluate scope value)
      ((atom.mapSlots id).evaluate (scope.rated name severity) value) := by
    intro atom value
    rw [atom.mapSlots_id]
    exact coupled_ratedAtom scope atom value
  have hcheck := coupled_evaluate hfield hatom check value
  rwa [check.mapSlots_id] at hcheck

/-- The references come out of the slots as they are rated. -/
theorem Rated.takeReferences {memory₁ memory₂ : Memory} (h : Rated name severity memory₁ memory₂) :
    (takeReferences memory₂).1 =
      (takeReferences memory₁).1.map (References.rated name severity) := by
  have hviewed : (memory₂.slots.viewed fun _ => referencesOf?) =
      memory₁.slots.viewed fun _ content =>
        (referencesOf? content).map (References.rated name severity) := by
    refine OrderedMap.viewed_congr fun slot => ?_
    rw [h.slots slot]
    match memory₁.slots.get? slot with
    | none => rfl
    | some (.seen keys) => rfl
    | some (.first value) => rfl
    | some (.references references) => rfl
  rw [takeReferences_eq, takeReferences_eq, hviewed]
  simp only [OrderedMap.viewed, List.map_filterMap, Option.map_map]
  rfl

end Memory

section Judging

variable {name : String} {severity : Severity}

theorem ColumnDefinition.coupled_ratedJudge (column : ColumnDefinition) (environment : Environment)
    (row : Row) :
    Coupled (Memory.Rated name severity)
      (List.map (Note.rated name severity) <$> column.judge environment row)
      ((column.rated name severity).judge environment row) := by
  have hcheck : ∀ (value : String) (check : Check), Coupled (Memory.Rated name severity)
      (List.map (Note.rated name severity) <$> column.judgeCheck environment row value check)
      ((column.rated name severity).judgeCheck environment row value check) := by
    intro value check
    simp only [judgeCheck, scope_rated, verdictNotes_rated]
    exact Coupled.map_bind (Memory.coupled_ratedCheck _ check value) fun _ => .pure _
  have hname : (column.rated name severity).name = column.name := rfl
  have hoptional : (column.rated name severity).rule.settings.optional =
      column.rule.settings.optional := rfl
  have hchecks : (column.rated name severity).rule.checks = column.rule.checks := rfl
  simp only [judge, hname, hoptional, hchecks, note_rated]
  cases row.get? (environment.settings.columnKey column.name) with
  | none => exact .pure _
  | some value =>
      simp only
      split
      · exact .pure _
      · refine Coupled.map_bind (Coupled.map_mapM (hcheck value)) fun notes => ?_
        rw [map_pure, List.map_flatten]
        exact .pure _

/-- The columns of a schema find the same about a row however the failures of one are rated. -/
theorem coupled_ratedJudgeColumns (columns : List ColumnDefinition) (environment : Environment)
    (row : Row) :
    Coupled (Memory.Rated name severity)
      (List.map (Note.rated name severity) <$> judgeColumns environment row columns)
      (judgeColumns environment row (columns.map (·.rated name severity))) := by
  have hcolumn : ∀ column : ColumnDefinition, Coupled (Memory.Rated name severity)
      (List.map (Note.rated name severity) <$> column.judge environment row)
      ((column.rated name severity).judge environment row) :=
    fun column => column.coupled_ratedJudge environment row
  refine Coupled.map_bind (Coupled.map_mapM_map hcolumn) fun notes => ?_
  rw [map_pure, List.map_flatten]
  exact .pure _

/-- What an integrity check has to say about a folder, as it is rated. -/
theorem References.judgeFolder_rated (storage : Storage) (references : References) (root : Path)
    (named : List (List PathPart)) :
    (references.rated name severity).judgeFolder storage root named =
      List.map (Note.rated name severity) <$> references.judgeFolder storage root named := by
  funext memory
  simp only [judgeFolder, bind_apply, pure_apply, map_apply, List.map_map]
  rfl

theorem References.judge_rated (storage : Storage) (references : References) :
    (references.rated name severity).judge storage =
      List.map (Note.rated name severity) <$> references.judge storage := by
  have hfolder : ∀ root : List PathPart × Path × List (List PathPart), Coupled Eq
      (List.map (Note.rated name severity) <$> references.judgeFolder storage root.2.1 root.2.2)
      ((references.rated name severity).judgeFolder storage root.2.1 root.2.2) := by
    intro root
    rw [judgeFolder_rated]
    exact .refl _
  refine (Coupled.eq (Coupled.map_bind (Coupled.map_mapM hfolder) fun notes => ?_)).symm
  rw [map_pure, List.map_flatten]
  exact .refl _

/-- The end of a run finds the same from memories that differ in how failures are rated. -/
theorem judgeEnd_rated (storage : Storage) {memory₁ memory₂ : Memory}
    (h : memory₁.Rated name severity memory₂) :
    (judgeEnd storage memory₂).1 =
      (judgeEnd storage memory₁).1.map (Note.rated name severity) := by
  have hreferences : ∀ references : References,
      Coupled (fun memory₁ memory₂ : Memory => memory₁.probes = memory₂.probes)
        (List.map (Note.rated name severity) <$> references.judge storage)
        ((references.rated name severity).judge storage) := by
    intro references
    rw [references.judge_rated]
    exact (coupled_judgeReferences storage references).map _
  have hjudged : Coupled _
      (_ <$> (Memory.takeReferences memory₁).1.mapM (References.judge storage))
      (((Memory.takeReferences memory₁).1.map (References.rated name severity)).mapM
        (References.judge storage)) := Coupled.map_mapM_map hreferences
  have hprobes : (Memory.takeReferences memory₁).2.probes =
      (Memory.takeReferences memory₂).2.probes := h.probes
  have hnotes := (hjudged _ _ hprobes).1
  simp only [judgeEnd, bind_apply, pure_apply, map_apply] at hnotes ⊢
  rw [h.takeReferences, ← hnotes, List.map_flatten]

end Judging

namespace Schema

variable (schema : Schema) (name : String) (severity : Severity)

theorem names_rated :
    (schema.rated name severity).columns.map (·.name) = schema.columns.map (·.name) := by
  rw [rated, List.map_map]
  rfl

theorem columnKeys_rated : (schema.rated name severity).columnKeys = schema.columnKeys := by
  rw [columnKeys, columnKeys, rated, List.map_map]
  rfl

/-- A run finds the same notes however the failures of one column are rated, but for the rating. -/
theorem judgeRun_rated (options : Options) (storage : Storage) (records : List (List String)) :
    (schema.rated name severity).judgeRun options storage records =
      ((schema.judgeRun options storage records).1.map (List.map (Note.rated name severity)),
        (schema.judgeRun options storage records).2.map (Note.rated name severity)) := by
  have hrecord : ∀ record, Coupled (Memory.Rated name severity)
      (List.map (Note.rated name severity) <$>
        schema.judgeRecord ⟨schema.settings, options, storage⟩ record)
      ((schema.rated name severity).judgeRecord ⟨schema.settings, options, storage⟩ record) := by
    intro record
    rw [judgeRecord, judgeRecord, columnKeys_rated]
    exact coupled_ratedJudgeColumns schema.columns _ _
  have hrecords : Coupled (Memory.Rated name severity) (_ <$> records.mapM _) (records.mapM _) :=
    Coupled.map_mapM hrecord
  obtain ⟨hnotes, hmemory⟩ := hrecords _ _ (Memory.rated_start options.memoize)
  have hend := judgeEnd_rated storage hmemory
  exact Prod.ext hnotes.symm hend

end Schema

end CsvSchema
