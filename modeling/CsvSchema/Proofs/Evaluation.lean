import CsvSchema.Proofs.Verdict
import CsvSchema.Proofs.Slots.Renaming

/-!
# From atomic checks to all checks

Only atomic checks touch the memory of a run.  So what is true of all atomic checks with certain
slots, and is passed on when actions are put together, is true of all checks with such slots,
`composes_evaluate`: a property of memories that atomic checks keep is kept by all checks,
`keeps_evaluate`.  And if atomic checks run side by side in two scopes when their slots are renamed
in two ways, so do all checks, `coupled_evaluate`.
-/

namespace CsvSchema

open Stateful

/-- A property of actions that is passed on when actions are put together. -/
structure Composes (Q : ∀ {α : Type}, StateM Memory α → Prop) : Prop where
  pure : ∀ {α : Type} (answer : α), Q (pure answer : StateM Memory α)
  bind : ∀ {α β : Type} {action : StateM Memory α} {next : α → StateM Memory β}, Q action →
    (∀ answer, Q (next answer)) → Q (action >>= next)

theorem Composes.mapM {Q : ∀ {α : Type}, StateM Memory α → Prop} (hQ : Composes @Q) {α β : Type}
    {f : α → StateM Memory β} {items : List α} (h : ∀ item ∈ items, Q (f item)) :
    Q (items.mapM f) := by
  induction items with
  | nil => exact hQ.pure []
  | cons item rest ih =>
      obtain ⟨hitem, hrest⟩ := List.forall_mem_cons.1 h
      rw [List.mapM_cons]
      exact hQ.bind hitem fun _ => hQ.bind (ih hrest) fun _ => hQ.pure _

section Atoms

open Memory

variable {scope : Scope} {Q : ∀ {α : Type}, StateM Memory α → Prop} (hQ : Composes @Q)
  (hprobe : ∀ {α : Type} (question : StateM Probes α), Q (probe question))
include hQ hprobe

theorem composes_locate? (text : String) : Q (scope.locate? text) := by
  refine hQ.bind (hprobe _) fun found => ?_
  cases found with
  | true => exact hQ.pure _
  | false =>
      simp only [Bool.false_eq_true, if_false]
      split
      · exact hprobe _
      · exact hQ.pure _

theorem composes_findBelow (value : String) (root : Path) (rule : FolderRule) :
    Q (findBelow scope value root rule) := by
  unfold findBelow
  simp only
  split
  · exact hQ.pure _
  · refine hQ.bind (composes_locate? hQ hprobe _) fun found => ?_
    cases found with
    | none => exact hQ.pure _
    | some path =>
        simp only
        split
        · split
          · exact hQ.pure _
          · exact hQ.pure _
        · exact hQ.pure _

/-- An atomic check asks about files and uses its slot in one of three ways. -/
theorem composes_atom {p : Nat → Prop} (hisNew : ∀ slot key, p slot → Q (isNew slot key))
    (hfirst : ∀ slot value, p slot → Q (firstValue slot value))
    (hrefer : ∀ slot initial root path, p slot → initial.column = scope.column →
      Q (refer slot initial root path))
    (atom : Atom) (hslots : ∀ slot ∈ atom.slots, p slot) (value : String) :
    Q (atom.evaluate scope value) := by
  cases atom with
  | unique columns slot =>
      have hslot := hslots slot (by simp [Atom.slots])
      simp only [Atom.evaluate, findUnique]
      split
      · exact hQ.pure _
      · exact hQ.bind (hisNew slot _ hslot) fun _ => hQ.pure _
  | identical slot =>
      have hslot := hslots slot (by simp [Atom.slots])
      exact hQ.bind (hfirst slot _ hslot) fun _ => hQ.pure _
  | integrity folder subfolder rule slot =>
      have hslot := hslots slot (by simp [Atom.slots])
      simp only [Atom.evaluate, findReference]
      split
      · exact hQ.pure _
      · refine hQ.bind (composes_locate? hQ hprobe _) fun found => ?_
        cases found with
        | none => exact hQ.pure _
        | some root =>
            refine hQ.bind (hrefer slot _ root none hslot rfl) fun _ => ?_
            refine hQ.bind (composes_findBelow hQ hprobe value root rule) fun path => ?_
            cases path with
            | error detail => exact hQ.pure _
            | ok path => exact hQ.bind (hrefer slot _ root (some path) hslot rfl) fun _ => hQ.pure _
  | fileExists folder =>
      simp only [Atom.evaluate, findFile]
      split
      · exact hQ.pure _
      · exact hQ.bind (composes_locate? hQ hprobe _) fun _ => hQ.pure _
  | checksum file algorithm =>
      simp only [Atom.evaluate, findChecksum]
      split
      · exact hQ.pure _
      · refine hQ.bind (composes_locate? hQ hprobe _) fun found => ?_
        cases found with
        | none => exact hQ.pure _
        | some path =>
            refine hQ.bind (hprobe _) fun digest => ?_
            cases digest with
            | none => exact hQ.pure _
            | some digest => exact hQ.pure _
  | fileCount folder =>
      simp only [Atom.evaluate, findCount]
      split
      · exact hQ.pure _
      · refine hQ.bind (composes_locate? hQ hprobe _) fun found => ?_
        cases found with
        | none => exact hQ.pure _
        | some path => exact hQ.bind (hprobe _) fun _ => hQ.pure _
  | _ => exact hQ.pure _

end Atoms

section Composition

-- Inside a mutual block the linter misses that a variable is used through another theorem.
set_option linter.unusedSectionVars false

variable {scope : Scope} {Q : ∀ {α : Type}, StateM Memory α → Prop} (hQ : Composes @Q)
  {p : Nat → Prop}
  (hatom : ∀ atom : Atom, (∀ slot ∈ atom.slots, p slot) → ∀ value, Q (atom.evaluate scope value))
include hQ hatom

mutual

/-- What is true of atomic checks and passed on is true of all checks. -/
theorem composes_evaluate (check : Check) (hslots : ∀ slot ∈ check.slots, p slot)
    (value : String) : Q (check.evaluate scope value) := by
  cases check with
  | atom atom =>
      simp only [Check.slots] at hslots
      simp only [Check.evaluate]
      exact hQ.bind (hatom atom hslots value) fun finding => hQ.pure _
  | or checks =>
      simp only [Check.slots] at hslots
      simp only [Check.evaluate]
      refine hQ.bind (composes_anyHolds checks hslots value) fun held => ?_
      cases held with
      | true => exact hQ.pure _
      | false => exact hQ.pure _
  | and checks =>
      simp only [Check.slots] at hslots
      simp only [Check.evaluate]
      exact composes_evaluateAll checks hslots value
  | parenthesized checks =>
      simp only [Check.slots] at hslots
      simp only [Check.evaluate]
      exact composes_evaluateAll checks hslots value
  | conditional condition clause otherwise =>
      simp only [Check.slots, List.forall_mem_append] at hslots
      simp only [Check.evaluate]
      refine hQ.bind (composes_evaluate condition hslots.1.1 value) fun verdict => ?_
      cases verdict with
      | holds => exact composes_evaluateAll clause hslots.1.2 value
      | fails complaint => exact composes_evaluateOtherwise otherwise hslots.2 value
  | switch cases otherwise =>
      simp only [Check.slots, List.forall_mem_append] at hslots
      simp only [Check.evaluate]
      refine hQ.bind (composes_evaluateCases cases hslots.1 value) fun verdict => ?_
      cases verdict with
      | some verdict => exact hQ.pure _
      | none => exact composes_evaluateOtherwise otherwise hslots.2 value
  | single column check =>
      simp only [Check.slots] at hslots
      cases column with
      | none =>
          simp only [Check.evaluate]
          exact composes_evaluate check hslots value
      | some column =>
          simp only [Check.evaluate]
          cases scope.field column with
          | ok other => exact composes_evaluate check hslots other
          | error e => exact hQ.pure _

theorem composes_anyHolds (checks : List Check) (hslots : ∀ slot ∈ checkSlots checks, p slot)
    (value : String) : Q (anyHolds scope checks value) := by
  cases checks with
  | nil =>
      simp only [anyHolds]
      exact hQ.pure false
  | cons check rest =>
      simp only [checkSlots, List.forall_mem_append] at hslots
      simp only [anyHolds]
      refine hQ.bind (composes_evaluate check hslots.1 value) fun verdict => ?_
      cases verdict with
      | holds => exact hQ.pure true
      | fails complaint => exact composes_anyHolds rest hslots.2 value

theorem composes_evaluateAll (checks : List Check) (hslots : ∀ slot ∈ checkSlots checks, p slot)
    (value : String) : Q (evaluateAll scope checks value) := by
  cases checks with
  | nil =>
      simp only [evaluateAll]
      exact hQ.pure _
  | cons check rest =>
      simp only [checkSlots, List.forall_mem_append] at hslots
      simp only [evaluateAll]
      refine hQ.bind (composes_evaluate check hslots.1 value) fun verdict => ?_
      cases verdict with
      | holds => exact composes_evaluateAll rest hslots.2 value
      | fails complaint => exact hQ.pure _

theorem composes_evaluateOtherwise (otherwise : Option (List Check))
    (hslots : ∀ slot ∈ otherwiseSlots otherwise, p slot) (value : String) :
    Q (evaluateOtherwise scope otherwise value) := by
  cases otherwise with
  | none =>
      simp only [evaluateOtherwise]
      exact hQ.pure _
  | some checks =>
      simp only [otherwiseSlots] at hslots
      simp only [evaluateOtherwise]
      exact composes_evaluateAll checks hslots value

theorem composes_evaluateCases (cases : List SwitchCase)
    (hslots : ∀ slot ∈ caseSlots cases, p slot) (value : String) :
    Q (evaluateCases scope cases value) := by
  match cases with
  | [] =>
      simp only [evaluateCases]
      exact hQ.pure none
  | .mk condition clause :: rest =>
      simp only [caseSlots, SwitchCase.slots, List.forall_mem_append] at hslots
      simp only [evaluateCases]
      refine hQ.bind (composes_evaluate condition hslots.1.1 value) fun verdict => ?_
      cases verdict with
      | holds => exact hQ.bind (composes_evaluateAll clause hslots.1.2 value) fun _ => hQ.pure _
      | fails complaint => exact composes_evaluateCases rest hslots.2 value

end

end Composition

theorem composes_keeps (P : Memory → Prop) : Composes fun action => Keeps P action :=
  ⟨Keeps.pure, Keeps.bind⟩

/-- What atomic checks keep is kept by all checks. -/
theorem keeps_evaluate {scope : Scope} {P : Memory → Prop} {p : Nat → Prop}
    (hatom : ∀ atom : Atom, (∀ slot ∈ atom.slots, p slot) → ∀ value,
      Keeps P (atom.evaluate scope value))
    (check : Check) (hslots : ∀ slot ∈ check.slots, p slot) (value : String) :
    Keeps P (check.evaluate scope value) :=
  composes_evaluate (composes_keeps P) hatom check hslots value

/-- A comparison with several operands depends on their texts and on how texts are compared. -/
theorem findAny_congr {scope₁ scope₂ : Scope}
    (hoperand : ∀ operand, scope₁.operand operand = scope₂.operand operand)
    (hcomparable : ∀ text, scope₁.comparable text = scope₂.comparable text) (value : String)
    (operands : List Operand) : findAny scope₁ value operands = findAny scope₂ value operands := by
  induction operands with
  | nil => rfl
  | cons operand rest ih => simp only [findAny, hoperand, hcomparable, ih]

section Coupling

set_option linter.unusedSectionVars false

theorem Finding.verdict_congr {check₁ check₂ : Check} (h : check₁.text = check₂.text)
    (value : String) (finding : Finding) :
    finding.verdict check₁ value = finding.verdict check₂ value := by
  cases finding with
  | passed => rfl
  | failed detail => simp only [verdict, h]

theorem text_mapSlots_eq (f₁ f₂ : Nat → Nat) (check : Check) :
    (check.mapSlots f₁).text = (check.mapSlots f₂).text := by
  rw [check.text_mapSlots, check.text_mapSlots]

variable {scope₁ scope₂ : Scope} {R : Memory → Memory → Prop} {f₁ f₂ : Nat → Nat}
  (hfield : ∀ column, scope₁.field column = scope₂.field column)
  (hatom : ∀ (atom : Atom) (value : String),
    Coupled R ((atom.mapSlots f₁).evaluate scope₁ value) ((atom.mapSlots f₂).evaluate scope₂ value))
include hfield hatom

mutual

/-- If atomic checks with slots renamed in two ways run side by side in two scopes with the same
fields, so do all checks. -/
theorem coupled_evaluate (check : Check) (value : String) :
    Coupled R ((check.mapSlots f₁).evaluate scope₁ value)
      ((check.mapSlots f₂).evaluate scope₂ value) := by
  have htext := text_mapSlots_eq f₁ f₂ check
  cases check with
  | atom atom =>
      simp only [Check.mapSlots] at htext
      simp only [Check.mapSlots, Check.evaluate]
      refine (hatom atom value).bind fun finding => ?_
      rw [finding.verdict_congr htext]
      exact .pure _
  | or checks =>
      -- The complaint holds the text of the check, which the slots do not show in.
      simp only [Check.mapSlots] at htext
      simp only [Check.mapSlots, Check.evaluate]
      refine (coupled_anyHolds checks value).bind fun held => ?_
      cases held with
      | true => exact .pure _
      | false =>
          rw [htext]
          exact .pure _
  | and checks =>
      simp only [Check.mapSlots, Check.evaluate]
      exact coupled_evaluateAll checks value
  | parenthesized checks =>
      simp only [Check.mapSlots, Check.evaluate]
      exact coupled_evaluateAll checks value
  | conditional condition clause otherwise =>
      simp only [Check.mapSlots, Check.evaluate]
      refine (coupled_evaluate condition value).bind fun verdict => ?_
      cases verdict with
      | holds => exact coupled_evaluateAll clause value
      | fails complaint => exact coupled_evaluateOtherwise otherwise value
  | switch cases otherwise =>
      simp only [Check.mapSlots, Check.evaluate]
      refine (coupled_evaluateCases cases value).bind fun verdict => ?_
      cases verdict with
      | some verdict => exact .pure _
      | none => exact coupled_evaluateOtherwise otherwise value
  | single column check =>
      cases column with
      | none =>
          simp only [Check.mapSlots, Check.evaluate]
          exact coupled_evaluate check value
      | some column =>
          simp only [Check.mapSlots] at htext
          simp only [Check.mapSlots, Check.evaluate, htext, hfield]
          cases scope₂.field column with
          | ok other => exact coupled_evaluate check other
          | error e => exact .pure _

theorem coupled_anyHolds (checks : List Check) (value : String) :
    Coupled R (anyHolds scope₁ (mapCheckSlots f₁ checks) value)
      (anyHolds scope₂ (mapCheckSlots f₂ checks) value) := by
  cases checks with
  | nil =>
      simp only [mapCheckSlots, anyHolds]
      exact .pure false
  | cons check rest =>
      simp only [mapCheckSlots, anyHolds]
      refine (coupled_evaluate check value).bind fun verdict => ?_
      cases verdict with
      | holds => exact .pure true
      | fails complaint => exact coupled_anyHolds rest value

theorem coupled_evaluateAll (checks : List Check) (value : String) :
    Coupled R (evaluateAll scope₁ (mapCheckSlots f₁ checks) value)
      (evaluateAll scope₂ (mapCheckSlots f₂ checks) value) := by
  cases checks with
  | nil =>
      simp only [mapCheckSlots, evaluateAll]
      exact .pure _
  | cons check rest =>
      simp only [mapCheckSlots, evaluateAll]
      refine (coupled_evaluate check value).bind fun verdict => ?_
      cases verdict with
      | holds => exact coupled_evaluateAll rest value
      | fails complaint => exact .pure _

theorem coupled_evaluateOtherwise (otherwise : Option (List Check)) (value : String) :
    Coupled R (evaluateOtherwise scope₁ (mapOtherwiseSlots f₁ otherwise) value)
      (evaluateOtherwise scope₂ (mapOtherwiseSlots f₂ otherwise) value) := by
  cases otherwise with
  | none =>
      simp only [mapOtherwiseSlots, evaluateOtherwise]
      exact .pure _
  | some checks =>
      simp only [mapOtherwiseSlots, evaluateOtherwise]
      exact coupled_evaluateAll checks value

theorem coupled_evaluateCases (cases : List SwitchCase) (value : String) :
    Coupled R (evaluateCases scope₁ (mapCaseSlots f₁ cases) value)
      (evaluateCases scope₂ (mapCaseSlots f₂ cases) value) := by
  match cases with
  | [] =>
      simp only [mapCaseSlots, evaluateCases]
      exact .pure none
  | .mk condition clause :: rest =>
      simp only [mapCaseSlots, SwitchCase.mapSlots, evaluateCases]
      refine (coupled_evaluate condition value).bind fun verdict => ?_
      cases verdict with
      | holds => exact (coupled_evaluateAll clause value).bind fun _ => .pure _
      | fails complaint => exact coupled_evaluateCases rest value

end

end Coupling

end CsvSchema
