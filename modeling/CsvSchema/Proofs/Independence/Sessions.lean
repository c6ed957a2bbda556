import CsvSchema.Run.Rule
import CsvSchema.Proofs.Reporting
import CsvSchema.Proofs.Report.Agreement
import CsvSchema.Proofs.Independence.Memories
import CsvSchema.Proofs.Independence.Edits

/-!
# Sessions of two runs

Two runs of schemas that differ in the rule of one column go through the same records.  The rule
of any other column does the same in both; the edited rule may do something else in each run, but
neither the memory of the other columns nor what the report says about them takes notice.
-/

namespace CsvSchema

open List (Forall₂)
open Stateful

namespace Session

/-- Two sessions are at the same record, their reports agree about all columns except one, and their
memories stand in a relation. -/
structure Agree (M : Memory → Memory → Prop) (name : String) (session₁ session₂ : Session) :
    Prop where
  line : session₁.line = session₂.line
  report : session₁.report.AgreeExcept name session₂.report
  memory : M session₁.memory session₂.memory

/-- Two sessions that agree are in the same column. -/
structure AgreeInColumn (M : Memory → Memory → Prop) (name : String)
    (session₁ session₂ : Session) : Prop extends Agree M name session₁ session₂ where
  column : session₁.column = session₂.column
  severity : session₁.severity = session₂.severity

section Reporting

variable {M : Memory → Memory → Prop} {name : String} {session₁ session₂ : Session}

theorem Agree.symm {M' : Memory → Memory → Prop} (h : Agree M name session₁ session₂)
    (hM : ∀ {memory₁ memory₂}, M memory₁ memory₂ → M' memory₂ memory₁) :
    Agree M' name session₂ session₁ :=
  ⟨h.line.symm, h.report.symm, hM h.memory⟩

theorem Agree.push (h : Agree M name session₁ session₂)
    (hcolumn : session₁.column = session₂.column) (severity : Severity) (message : String) :
    Agree M name (session₁.push severity message) (session₂.push severity message) := by
  refine { h with report := ?_ }
  simp only [Session.push, h.line, hcolumn]
  exact h.report.push session₂.line session₂.column severity message

theorem AgreeInColumn.push (h : AgreeInColumn M name session₁ session₂) (severity : Severity)
    (message : String) :
    AgreeInColumn M name (session₁.push severity message) (session₂.push severity message) :=
  { h with toAgree := h.toAgree.push h.column severity message }

theorem Agree.push_left (h : Agree M name session₁ session₂) (hcolumn : session₁.column = name)
    (severity : Severity) (message : String) :
    Agree M name (session₁.push severity message) session₂ := by
  refine { h with report := ?_ }
  rw [Session.push, hcolumn]
  exact h.report.push_left session₁.line severity message

/-- A verdict that both runs come to is settled in both. -/
theorem AgreeInColumn.settle (h : AgreeInColumn M name session₁ session₂) (level : Option Severity)
    (verdict : Verdict) {memory₁ memory₂ : Memory} (hmemory : M memory₁ memory₂) :
    AgreeInColumn M name (session₁.settle level (verdict, memory₁)).2
      (session₂.settle level (verdict, memory₂)).2 := by
  have hsessions : AgreeInColumn M name { session₁ with memory := memory₁ }
      { session₂ with memory := memory₂ } :=
    { h with memory := hmemory }
  exact record_related hsessions.line hsessions.column hsessions hsessions.push level verdict

theorem Agree.settle_left (h : Agree M name session₁ session₂) (hcolumn : session₁.column = name)
    (level : Option Severity) (verdict : Verdict) {memory₁ : Memory}
    (hmemory : M memory₁ session₂.memory) :
    Agree M name (session₁.settle level (verdict, memory₁)).2 session₂ := by
  have hsessions : Agree M name { session₁ with memory := memory₁ } session₂ :=
    { h with memory := hmemory }
  cases verdict with
  | holds => exact hsessions
  | fails complaint =>
      cases level with
      | none => exact hsessions
      | some severity => exact hsessions.push_left hcolumn severity _

end Reporting

/-- Two sessions in the middle of two runs. -/
abbrev InStep (storage : Storage) (name : String) (f₁ f₂ : Nat → Nat) : Session → Session → Prop :=
  Agree (Memory.Agree storage name f₁ f₂) name

/-- Two sessions in the middle of the same rule in two runs. -/
abbrev InStepInColumn (storage : Storage) (name : String) (f₁ f₂ : Nat → Nat) :
    Session → Session → Prop :=
  AgreeInColumn (Memory.Agree storage name f₁ f₂) name

/-- A session in the middle of the edited rule is in step with any other run. -/
def InEditedRule (storage : Storage) (name : String) (f₁ f₂ : Nat → Nat) (session₂ : Session)
    (session₁ : Session) : Prop :=
  InStep storage name f₁ f₂ session₁ session₂ ∧ session₁.column = name

section Rules

variable {storage : Storage} {name : String} {f₁ f₂ : Nat → Nat} (hstorage : storage.ByParts)
  {environment : Environment} (henvironment : environment.storage = storage) (row : Row)
include hstorage henvironment

/-- A check of another column, with its slots numbered in two ways. -/
theorem coupled_validate (h₁ : Function.Injective f₁) (h₂ : Function.Injective f₂) (fold : Bool)
    (level : Option Severity) (check : Check) (value : String) :
    Coupled (InStepInColumn storage name f₁ f₂)
      (validate environment row fold level (check.mapSlots f₁) value)
      (validate environment row fold level (check.mapSlots f₂) value) := by
  intro session₁ session₂ h
  -- Column and severity are all that a check learns about its session.
  have hscope : session₁.scope environment row fold = session₂.scope environment row fold := by
    simp only [scope, h.column, h.severity]
  have hstorage₂ : (session₂.scope environment row fold).environment.storage = storage :=
    henvironment
  obtain ⟨hverdict, hmemory⟩ := coupled_evaluate (fun _ => rfl)
    (Memory.coupled_atom hstorage hstorage₂ h₁ h₂) check value session₁.memory session₂.memory
    h.memory
  rw [validate_eq_settle, validate_eq_settle, hscope]
  generalize (check.mapSlots f₁).evaluate _ value session₁.memory = outcome₁ at hverdict hmemory ⊢
  generalize (check.mapSlots f₂).evaluate _ value session₂.memory = outcome₂ at hverdict hmemory ⊢
  obtain ⟨verdict₁, memory₁⟩ := outcome₁
  obtain ⟨verdict₂, memory₂⟩ := outcome₂
  simp only at hverdict hmemory
  subst hverdict
  exact ⟨rfl, h.settle level verdict₁ hmemory⟩

/-- A check of the edited column. -/
theorem keeps_validate (fold : Bool) (level : Option Severity) (check : Check)
    (hslots : ∀ slot ∈ check.slots, ∀ x, f₁ x ≠ slot) (value : String) (session₂ : Session) :
    Keeps (InEditedRule storage name f₁ f₂ session₂)
      (validate environment row fold level check value) := by
  rintro session₁ ⟨h, hcolumn⟩
  have hstorage₁ : (session₁.scope environment row fold).environment.storage = storage :=
    henvironment
  have hmemory := keeps_evaluate
    (fun atom hatom value => Memory.keeps_atom hstorage hstorage₁ hcolumn atom hatom value
      session₂.memory)
    check hslots value session₁.memory h.memory
  rw [validate_eq_settle]
  refine ⟨h.settle_left hcolumn level _ hmemory, ?_⟩
  rw [(settle_keeps_place session₁ level _).2.1]
  exact hcolumn

section Renamed

variable {column₁ column₂ : ColumnDefinition} (hname : column₁.name = column₂.name)
  (hsettings : column₁.rule.settings = column₂.rule.settings)
include hname hsettings

/-- One check of the rule of another column. -/
theorem coupled_applyCheck (h₁ : Function.Injective f₁) (h₂ : Function.Injective f₂)
    (value : String) (check : Check) :
    Coupled (InStepInColumn storage name f₁ f₂)
      (applyCheck environment row column₁ value (check.mapSlots f₁))
      (applyCheck environment row column₂ value (check.mapSlots f₂)) := by
  simp only [applyCheck, hname, hsettings]
  cases column₂.rule.settings.matchIsFalse with
  | true =>
      refine (coupled_validate hstorage henvironment row h₁ h₂ _ none check value).bind
        fun held => ?_
      cases held with
      | false => exact .pure true
      | true =>
          refine Coupled.bind ?_ fun _ => .pure false
          intro session₁ session₂ h
          simp only [Stateful.modify_apply, matchText, text_mapSlots_eq f₁ f₂ check, h.line]
          exact ⟨trivial, h.push _ _⟩
  | false => exact coupled_validate hstorage henvironment row h₁ h₂ _ _ check value

theorem coupled_applyChecks (h₁ : Function.Injective f₁) (h₂ : Function.Injective f₂)
    (value : String) (checks : List Check) :
    Coupled (InStepInColumn storage name f₁ f₂)
      (applyChecks environment row column₁ value (mapCheckSlots f₁ checks))
      (applyChecks environment row column₂ value (mapCheckSlots f₂ checks)) := by
  induction checks with
  | nil => exact .pure true
  | cons check rest ih =>
      simp only [mapCheckSlots, applyChecks]
      exact (coupled_applyCheck hstorage henvironment row hname hsettings h₁ h₂ value check).bind
        fun held => ih.bind fun heldAfter => .pure _

/-- The rule of another column. -/
theorem Agree.validateRule_renamed {session₁ session₂ : Session}
    (h : InStep storage name f₁ f₂ session₁ session₂) (h₁ : Function.Injective f₁)
    (h₂ : Function.Injective f₂) (checks : List Check)
    (hchecks₁ : column₁.rule.checks = mapCheckSlots f₁ checks)
    (hchecks₂ : column₂.rule.checks = mapCheckSlots f₂ checks) :
    InStep storage name f₁ f₂ (validateRule environment row column₁ session₁).2
      (validateRule environment row column₂ session₂).2 := by
  have hentered : InStepInColumn storage name f₁ f₂ (enter column₁ session₁).2
      (enter column₂ session₂).2 :=
    { h with column := hname, severity := by simp only [enter, Stateful.modify_apply, hsettings] }
  simp only [validateRule, Stateful.bind_apply, hname, hsettings, hchecks₁, hchecks₂]
  generalize (enter column₁ session₁).2 = entered₁ at hentered ⊢
  generalize (enter column₂ session₂).2 = entered₂ at hentered ⊢
  cases row.get? (environment.settings.columnKey column₂.name) with
  | none =>
      simp only [Stateful.bind_apply, Stateful.modify_apply, Stateful.pure_apply, hentered.line]
      exact (hentered.push column₂.rule.settings.severity _).toAgree
  | some value =>
      cases hskip : column₂.rule.settings.optional && value.isEmpty with
      | true =>
          simp only [hskip, if_true]
          exact hentered.toAgree
      | false =>
          simp only [hskip, Bool.false_eq_true, if_false]
          have hchecks := coupled_applyChecks hstorage henvironment row hname hsettings h₁ h₂ value
            checks _ _ hentered
          exact hchecks.2.toAgree

end Renamed

section Edited

variable (session₂ : Session)

/-- One check of the edited rule. -/
theorem keeps_applyCheck (rule : ColumnRule) (value : String) (check : Check)
    (hslots : ∀ slot ∈ check.slots, ∀ x, f₁ x ≠ slot) :
    Keeps (InEditedRule storage name f₁ f₂ session₂)
      (applyCheck environment row ⟨name, rule⟩ value check) := by
  simp only [applyCheck]
  cases rule.settings.matchIsFalse with
  | true =>
      refine (keeps_validate hstorage henvironment row _ none check hslots value session₂).bind
        fun held => ?_
      cases held with
      | false => exact .pure true
      | true =>
          refine Keeps.bind ?_ fun _ => .pure false
          rintro session₁ ⟨h, hcolumn⟩
          exact ⟨h.push_left hcolumn _ _, hcolumn⟩
  | false => exact keeps_validate hstorage henvironment row _ _ check hslots value session₂

theorem keeps_applyChecks (rule : ColumnRule) (value : String) (checks : List Check)
    (hslots : ∀ slot ∈ checkSlots checks, ∀ x, f₁ x ≠ slot) :
    Keeps (InEditedRule storage name f₁ f₂ session₂)
      (applyChecks environment row ⟨name, rule⟩ value checks) := by
  induction checks with
  | nil => exact .pure true
  | cons check rest ih =>
      simp only [checkSlots, List.forall_mem_append] at hslots
      simp only [applyChecks]
      exact (keeps_applyCheck hstorage henvironment row session₂ rule value check hslots.1).bind
        fun held => (ih hslots.2).bind fun heldAfter => .pure _

/-- The edited rule. -/
theorem Agree.validateRule_edited {session₁ session₂ : Session}
    (h : InStep storage name f₁ f₂ session₁ session₂) {rule : ColumnRule}
    (hslots : ∀ x, f₁ x ∉ rule.slots) :
    InStep storage name f₁ f₂ (validateRule environment row ⟨name, rule⟩ session₁).2 session₂ := by
  have hentered : InStep storage name f₁ f₂ (enter ⟨name, rule⟩ session₁).2 session₂ := { h with }
  have hcolumn : (enter ⟨name, rule⟩ session₁).2.column = name := rfl
  simp only [validateRule, Stateful.bind_apply]
  generalize (enter ⟨name, rule⟩ session₁).2 = entered at hentered hcolumn ⊢
  cases row.get? (environment.settings.columnKey name) with
  | none => exact hentered.push_left hcolumn _ _
  | some value =>
      cases hskip : rule.settings.optional && value.isEmpty with
      | true =>
          simp only [hskip, if_true]
          exact hentered
      | false =>
          simp only [hskip, Bool.false_eq_true, if_false]
          exact (keeps_applyChecks hstorage henvironment row session₂ rule value rule.checks
            (fun slot hslot x heq => hslots x (by rw [heq]; exact hslot)) _ ⟨hentered, hcolumn⟩).1

end Edited

/-- The rules of all columns of a record. -/
theorem Agree.validateColumns (h₁ : Function.Injective f₁) (h₂ : Function.Injective f₂)
    {columns₁ columns₂ : List ColumnDefinition}
    (hcolumns : Forall₂ (ColumnAlike name f₁ f₂) columns₁ columns₂) {session₁ session₂ : Session}
    (h : InStep storage name f₁ f₂ session₁ session₂) :
    InStep storage name f₁ f₂ (validateColumns environment row columns₁ session₁).2
      (validateColumns environment row columns₂ session₂).2 := by
  induction hcolumns generalizing session₁ session₂ with
  | nil => exact h
  | cons hcolumn _ ih =>
      simp only [Session.validateColumns, Stateful.mapM_cons_apply] at ih ⊢
      refine ih ?_
      cases hcolumn with
      | renamed column =>
          exact h.validateRule_renamed hstorage henvironment row (by rfl) (by rfl) h₁ h₂
            column.rule.checks (by rfl) (by rfl)
      | edited hslots₁ hslots₂ =>
          -- One edited rule runs against a session that stands still, then the other one does.
          have hleft := h.validateRule_edited hstorage henvironment row hslots₁
          have hswapped := hleft.symm Memory.Agree.symm
          have hright := hswapped.validateRule_edited hstorage henvironment row hslots₂
          exact hright.symm Memory.Agree.symm

end Rules

end Session

end CsvSchema
