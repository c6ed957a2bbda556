import CsvSchema.Run.Validation
import CsvSchema.Proofs.Views
import CsvSchema.Proofs.Independence.Memories

/-!
# Remembered answers do not show

A run that remembers answers about files and one that asks every time go through the same records
side by side.  Their memories differ in nothing but the answers that are remembered, and those are
true; so whatever is done in one session is done in the other, and the two runs have the same
outcome, `Schema.run_memoizing`.
-/

namespace CsvSchema

open Stateful

namespace Memory

/-- Two memories have the same in their slots, and what they remember about files is true. -/
structure Alike (storage : Storage) (memory₁ memory₂ : Memory) : Prop where
  left : memory₁.probes.Truthful storage
  right : memory₂.probes.Truthful storage
  slots : memory₁.slots = memory₂.slots

variable {storage : Storage} {memory₁ memory₂ : Memory}

theorem alike_start (memoize₁ memoize₂ : Bool) :
    Alike storage (start memoize₁) (start memoize₂) where
  left := Probes.truthful_start storage memoize₁
  right := Probes.truthful_start storage memoize₂
  slots := rfl

/-- Memories that are alike agree in all slots without any renaming. -/
theorem alike_iff_agree :
    Alike storage memory₁ memory₂ ↔ Agree storage "" id id memory₁ memory₂ := by
  have hsound : ∀ memory : Memory, memory.probes.Truthful storage → Sound storage "" id memory :=
    fun memory h => ⟨h, fun slot hslot => absurd rfl (hslot slot)⟩
  constructor
  · intro h
    exact ⟨hsound _ h.left, hsound _ h.right, fun slot => by rw [h.slots]⟩
  · intro h
    exact ⟨h.left.truthful, h.right.truthful, OrderedMap.eq_of_get?_eq h.slots⟩

theorem alike_of_isQuery {α : Type} {action : StateM Memory α} (h : IsQuery storage action) :
    Coupled (Alike storage) action action := by
  intro memory₁ memory₂ halike
  obtain ⟨hanswer, hagree⟩ := coupled_of_isQuery h memory₁ memory₂ (alike_iff_agree.1 halike)
  exact ⟨hanswer, alike_iff_agree.2 hagree⟩

end Memory

/-- An environment in which answers about files are remembered, or are not. -/
def Environment.memoizing (environment : Environment) (memoize : Bool) : Environment :=
  { environment with options := { environment.options with memoize } }

/-- A scope in which answers about files are remembered, or are not. -/
def Scope.memoizing (scope : Scope) (memoize : Bool) : Scope :=
  { scope with environment := scope.environment.memoizing memoize }

section Checks

variable {storage : Storage} (hstorage : storage.ByParts) {scope : Scope}
  (hscope : scope.environment.storage = storage) (memoize : Bool)

/-- No atomic check asks whether answers are remembered. -/
theorem Atom.evaluate_memoizing (atom : Atom) (value : String) :
    atom.evaluate (scope.memoizing memoize) value = atom.evaluate scope value := by
  cases atom with
  | any operands =>
      refine congrArg pure (findAny_congr ?_ ?_ value operands)
      · exact fun _ => rfl
      · exact fun _ => rfl
  | _ => rfl

include hstorage hscope

theorem alike_evaluate (check : Check) (value : String) :
    Coupled (Memory.Alike storage) (check.evaluate (scope.memoizing memoize) value)
      (check.evaluate scope value) := by
  have hfield : ∀ column, (scope.memoizing memoize).field column = scope.field column :=
    fun _ => rfl
  have hatom : ∀ (atom : Atom) (value : String), Coupled (Memory.Agree storage "" id id)
      ((atom.mapSlots id).evaluate (scope.memoizing memoize) value)
      ((atom.mapSlots id).evaluate scope value) := by
    intro atom value
    rw [Atom.evaluate_memoizing]
    exact Memory.coupled_atom hstorage hscope Function.injective_id Function.injective_id
      atom value
  have hcheck := coupled_evaluate hfield hatom check value
  rw [Check.mapSlots_id] at hcheck
  intro memory₁ memory₂ halike
  obtain ⟨hverdict, hagree⟩ := hcheck memory₁ memory₂ (Memory.alike_iff_agree.1 halike)
  exact ⟨hverdict, Memory.alike_iff_agree.2 hagree⟩

end Checks

namespace Session

/-- Two sessions differ in nothing but what they remember about files. -/
structure Alike (storage : Storage) (session₁ session₂ : Session) : Prop where
  line : session₁.line = session₂.line
  column : session₁.column = session₂.column
  severity : session₁.severity = session₂.severity
  report : session₁.report = session₂.report
  memory : session₁.memory.Alike storage session₂.memory

section Reporting

variable {storage : Storage} {session₁ session₂ : Session} (h : Alike storage session₁ session₂)
include h

theorem Alike.push (severity : Severity) (message : String) :
    Alike storage (session₁.push severity message) (session₂.push severity message) :=
  { h with report := by simp only [Session.push, h.line, h.column, h.report] }

theorem Alike.pushAll (severity : Severity) (messages : List String) :
    Alike storage (session₁.pushAll severity messages) (session₂.pushAll severity messages) := by
  induction messages generalizing session₁ session₂ with
  | nil => exact h
  | cons message rest ih => exact ih (h.push severity message)

theorem Alike.settle (level : Option Severity) (verdict : Verdict) {memory₁ memory₂ : Memory}
    (hmemory : memory₁.Alike storage memory₂) :
    Alike storage (session₁.settle level (verdict, memory₁)).2
      (session₂.settle level (verdict, memory₂)).2 := by
  have hsessions : Alike storage { session₁ with memory := memory₁ }
      { session₂ with memory := memory₂ } := { h with memory := hmemory }
  exact record_related hsessions.line hsessions.column hsessions hsessions.push level verdict

end Reporting

section Rules

variable {storage : Storage} (hstorage : storage.ByParts) {environment : Environment}
  (henvironment : environment.storage = storage) (memoize : Bool) (row : Row)
include hstorage henvironment

theorem alike_validate (fold : Bool) (level : Option Severity) (check : Check) (value : String) :
    Coupled (Alike storage) (validate (environment.memoizing memoize) row fold level check value)
      (validate environment row fold level check value) := by
  intro session₁ session₂ h
  have hscope : session₁.scope (environment.memoizing memoize) row fold =
      (session₂.scope environment row fold).memoizing memoize := by
    simp only [scope, Scope.memoizing, h.column, h.severity]
  have hstorage₂ : (session₂.scope environment row fold).environment.storage = storage :=
    henvironment
  obtain ⟨hverdict, hmemory⟩ := alike_evaluate hstorage hstorage₂ memoize check value
    session₁.memory session₂.memory h.memory
  rw [validate_eq_settle, validate_eq_settle, hscope]
  generalize check.evaluate _ value session₁.memory = outcome₁ at hverdict hmemory ⊢
  generalize check.evaluate _ value session₂.memory = outcome₂ at hverdict hmemory ⊢
  obtain ⟨verdict, memory₁⟩ := outcome₁
  obtain ⟨verdict₂, memory₂⟩ := outcome₂
  simp only at hverdict hmemory
  subst hverdict
  exact ⟨rfl, h.settle level verdict hmemory⟩

theorem alike_applyCheck (column : ColumnDefinition) (value : String) (check : Check) :
    Coupled (Alike storage)
      (applyCheck (environment.memoizing memoize) row column value check)
      (applyCheck environment row column value check) := by
  simp only [applyCheck]
  cases column.rule.settings.matchIsFalse with
  | true =>
      refine (alike_validate hstorage henvironment memoize row _ none check value).bind
        fun held => ?_
      cases held with
      | false => exact .pure true
      | true =>
          refine Coupled.bind ?_ fun _ => .pure false
          intro session₁ session₂ h
          simp only [Stateful.modify_apply, h.line]
          exact ⟨trivial, h.push _ _⟩
  | false => exact alike_validate hstorage henvironment memoize row _ _ check value

theorem alike_applyChecks (column : ColumnDefinition) (value : String) (checks : List Check) :
    Coupled (Alike storage)
      (applyChecks (environment.memoizing memoize) row column value checks)
      (applyChecks environment row column value checks) := by
  induction checks with
  | nil => exact .pure true
  | cons check rest ih =>
      exact (alike_applyCheck hstorage henvironment memoize row column value check).bind
        fun held => ih.bind fun heldAfter => .pure _

theorem alike_validateRule (column : ColumnDefinition) :
    Coupled (Alike storage) (validateRule (environment.memoizing memoize) row column)
      (validateRule environment row column) := by
  have henter : Coupled (Alike storage) (enter column) (enter column) :=
    fun session₁ session₂ h => ⟨rfl, { h with column := rfl, severity := rfl }⟩
  have hsettings : (environment.memoizing memoize).settings = environment.settings := rfl
  simp only [validateRule, hsettings]
  refine henter.bind fun _ => ?_
  cases row.get? (environment.settings.columnKey column.name) with
  | none =>
      refine Coupled.bind ?_ fun _ => .pure false
      intro session₁ session₂ h
      simp only [Stateful.modify_apply, h.line]
      exact ⟨trivial, h.push _ _⟩
  | some value =>
      simp only
      split
      · exact .pure true
      · exact alike_applyChecks hstorage henvironment memoize row column value column.rule.checks

end Rules

section Completeness

variable {storage : Storage} (hstorage : storage.ByParts)
include hstorage

theorem alike_reportFolder (references : References) (root : Path) (named : List (List PathPart)) :
    Coupled (Alike storage) (reportFolder storage references root named)
      (reportFolder storage references root named) := by
  intro session₁ session₂ h
  obtain ⟨hentries, hmemory⟩ :=
    Memory.alike_of_isQuery (isQuery_walk hstorage root (references.rule == .includeFolder))
      session₁.memory session₂.memory h.memory
  simp only [reportFolder]
  generalize walk storage root _ session₁.memory = walked₁ at hentries hmemory ⊢
  generalize walk storage root _ session₂.memory = walked₂ at hentries hmemory ⊢
  obtain ⟨entries, memory₁⟩ := walked₁
  obtain ⟨entries₂, memory₂⟩ := walked₂
  simp only at hentries hmemory
  subst hentries
  have hwalked : Alike storage { session₁ with memory := memory₁ }
      { session₂ with memory := memory₂ } := { h with memory := hmemory }
  exact ⟨rfl, hwalked.pushAll references.severity _⟩

theorem alike_reportReferences (references : References) :
    Coupled (Alike storage) (reportReferences storage references)
      (reportReferences storage references) := by
  have henter : Coupled (Alike storage)
      (modify fun session => { session with column := references.column } : StateM Session Unit)
      (modify fun session => { session with column := references.column }) :=
    fun session₁ session₂ h => ⟨rfl, { h with column := rfl }⟩
  refine henter.bind fun _ => ?_
  refine Coupled.bind (Coupled.mapM fun root => ?_) fun outcomes => .pure _
  exact alike_reportFolder hstorage references root.2.1 root.2.2

theorem alike_finish : Coupled (Alike storage) (finish storage) (finish storage) := by
  have htake : Coupled (Alike storage) (remembering Memory.takeReferences)
      (remembering Memory.takeReferences) := by
    intro session₁ session₂ h
    simp only [remembering_apply, Memory.takeReferences, h.memory.slots]
    exact ⟨trivial, { h with memory := ⟨h.memory.left, h.memory.right, rfl⟩ }⟩
  exact htake.bind fun taken =>
    (Coupled.mapM (alike_reportReferences hstorage)).bind fun outcomes => .pure _

end Completeness

end Session

namespace Schema

section Runs

variable (schema : Schema) {storage : Storage} (hstorage : storage.ByParts)
include hstorage

theorem alike_validateRecord {environment : Environment}
    (henvironment : environment.storage = storage) (memoize : Bool) (record : List String) :
    Coupled (Session.Alike storage)
      (schema.validateRecord (environment.memoizing memoize) record)
      (schema.validateRecord environment record) := by
  have hadvance : Coupled (Session.Alike storage) Session.advance Session.advance :=
    fun session₁ session₂ h => ⟨rfl, { h with line := congrArg (· + 1) h.line }⟩
  refine hadvance.bind fun _ => ?_
  exact (Coupled.mapM (Session.alike_validateRule hstorage henvironment memoize _)).bind
    fun outcomes => .pure _

theorem alike_runRecords {environment : Environment}
    (henvironment : environment.storage = storage) (memoize : Bool)
    (records : List (List String)) :
    Coupled (Session.Alike storage)
      (schema.runRecords (environment.memoizing memoize) records)
      (schema.runRecords environment records) := by
  have hrecords : Coupled (Session.Alike storage)
      (schema.validateAll (environment.memoizing memoize) records)
      (schema.validateAll environment records) :=
    (Coupled.mapM (schema.alike_validateRecord hstorage henvironment memoize)).bind
      fun outcomes => .pure _
  have hempty : Coupled (Session.Alike storage) (schema.checkEmpty records)
      (schema.checkEmpty records) := by
    unfold checkEmpty
    split
    · refine Coupled.bind (fun session₁ session₂ h => ?_) fun _ => .pure false
      exact ⟨rfl, { h with report := congrArg (·.pushFile .error noRecordsText) h.report }⟩
    · exact .pure true
  have hfinish : Coupled (Session.Alike storage)
      (Session.finish (environment.memoizing memoize).storage)
      (Session.finish environment.storage) := by
    change Coupled _ (Session.finish environment.storage) _
    rw [henvironment]
    exact Session.alike_finish hstorage
  exact hrecords.bind fun valid => hempty.bind fun permitted =>
    hfinish.bind fun complete => .pure _

/-- Whether answers are remembered makes no difference to the outcome. -/
theorem outcomeOf_memoizing (options : Options) (memoize : Bool) (records : List (List String)) :
    schema.outcomeOf { options with memoize } storage records =
      schema.outcomeOf options storage records := by
  have hstart : Session.Alike storage (schema.firstSession { options with memoize })
      (schema.firstSession options) :=
    ⟨rfl, rfl, rfl, rfl, Memory.alike_start memoize options.memoize⟩
  have henvironment : Environment.storage ⟨schema.settings, options, storage⟩ = storage := rfl
  obtain ⟨hvalid, hends⟩ :=
    schema.alike_runRecords hstorage henvironment memoize records _ _ hstart
  have hparts : ∀ options : Options, schema.outcomeOf options storage records =
      ⟨(schema.runRecords ⟨schema.settings, options, storage⟩ records
          (schema.firstSession options)).1,
        (schema.runRecords ⟨schema.settings, options, storage⟩ records
          (schema.firstSession options)).2.report, records.length⟩ := fun _ => rfl
  rw [hparts, hparts, Outcome.mk.injEq]
  exact ⟨hvalid, hends.report, rfl⟩

/-- A run fails in the same way or has the same outcome. -/
theorem run_memoizing (options : Options) (memoize : Bool) (header : Option (List String))
    (records : List (Except RunError (List String))) :
    schema.run { options with memoize } storage header records =
      schema.run options storage header records := by
  simp only [run, schema.outcomeOf_memoizing hstorage]

end Runs

/-- To remember answers about files changes nothing: with the same options otherwise a run over
records and a run over a file fail in the same way or have the same outcome. -/
theorem validate_same_with_memory (schema : Schema) (options : Options) (storage : MemoryStorage)
    (header : Option (List String)) (records : List (List String))
    (fileRecords : List (Except RunError (List String))) :
    schema.validateRecords { options with memoize := true } storage.toStorage header records =
        schema.validateRecords { options with memoize := false } storage.toStorage header
          records ∧
      schema.validateFile { options with memoize := true } storage.toStorage fileRecords =
        schema.validateFile { options with memoize := false } storage.toStorage fileRecords := by
  have hrun := fun header records =>
    (schema.run_memoizing storage.byParts options true header records).trans
      (schema.run_memoizing storage.byParts options false header records).symm
  constructor
  · simp only [validateRecords, hrun]
  · simp only [validateFile, hrun]

end Schema

end CsvSchema
