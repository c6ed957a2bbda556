import Mathlib.Data.List.Forall2
import Mathlib.Data.Option.Basic
import CsvSchema.Proofs.Verdict
import CsvSchema.Proofs.Rendering.Checks

/-!
# Checks that cannot be told apart

Two checks are alike if they have the same text and always come to the same verdict.  Checks made in
the same way of parts that are alike are alike.  So are some checks that are made differently: one
that only stands for another one, and a combination whose last part is a combination by the same
word.
-/

namespace CsvSchema

open List (Forall₂)

/-- Two checks have the same text and come to the same verdicts. -/
structure Check.Alike (check₁ check₂ : Check) : Prop where
  text : check₁.text = check₂.text
  evaluate : ∀ scope value, check₁.evaluate scope value = check₂.evaluate scope value

/-- Two cases have conditions and clauses that are alike. -/
inductive SwitchCase.Alike : SwitchCase → SwitchCase → Prop
  | mk {condition₁ condition₂ : Check} {clause₁ clause₂ : List Check}
      (hcondition : condition₁.Alike condition₂) (hclause : Forall₂ Check.Alike clause₁ clause₂) :
      SwitchCase.Alike (.mk condition₁ clause₁) (.mk condition₂ clause₂)

namespace Check.Alike

variable {check₁ check₂ check₃ : Check}

@[refl] theorem refl (check : Check) : check.Alike check := ⟨rfl, fun _ _ => rfl⟩

@[symm] theorem symm (h : check₁.Alike check₂) : check₂.Alike check₁ :=
  ⟨h.text.symm, fun scope value => (h.evaluate scope value).symm⟩

theorem trans (h : check₁.Alike check₂) (h' : check₂.Alike check₃) : check₁.Alike check₃ :=
  ⟨h.text.trans h'.text,
    fun scope value => (h.evaluate scope value).trans (h'.evaluate scope value)⟩

end Check.Alike

section Lists

theorem forall₂_alike_of_common {checks₁ checks₂ common : List Check}
    (h₁ : Forall₂ Check.Alike checks₁ common) (h₂ : Forall₂ Check.Alike checks₂ common) :
    Forall₂ Check.Alike checks₁ checks₂ := by
  induction h₁ generalizing checks₂ with
  | nil =>
      cases h₂
      exact .nil
  | cons hcheck₁ _ ih =>
      cases h₂ with
      | cons hcheck₂ hrest₂ => exact .cons (hcheck₁.trans hcheck₂.symm) (ih hrest₂)

variable {checks₁ checks₂ : List Check} {cases₁ cases₂ : List SwitchCase}
  {otherwise₁ otherwise₂ : Option (List Check)}

theorem checkTexts_congr (h : Forall₂ Check.Alike checks₁ checks₂) :
    checkTexts checks₁ = checkTexts checks₂ := by
  induction h with
  | nil => rfl
  | cons hcheck _ ih => rw [checkTexts, checkTexts, hcheck.text, ih]

theorem otherwiseTexts_congr (h : Option.Rel (Forall₂ Check.Alike) otherwise₁ otherwise₂) :
    otherwiseTexts otherwise₁ = otherwiseTexts otherwise₂ := by
  cases h with
  | none => rfl
  | some h => rw [otherwiseTexts, otherwiseTexts, checkTexts_congr h]

theorem caseTexts_congr (h : Forall₂ SwitchCase.Alike cases₁ cases₂) :
    caseTexts cases₁ = caseTexts cases₂ := by
  induction h with
  | nil => rfl
  | cons hcase _ ih =>
      cases hcase with
      | mk hcondition hclause =>
          rw [caseTexts, caseTexts, hcondition.text, checkTexts_congr hclause, ih]

variable (scope : Scope) (value : String)

theorem evaluateAll_congr (h : Forall₂ Check.Alike checks₁ checks₂) :
    evaluateAll scope checks₁ value = evaluateAll scope checks₂ value := by
  induction h with
  | nil => rfl
  | cons hcheck _ ih => rw [evaluateAll, evaluateAll, hcheck.evaluate, ih]

theorem anyHolds_congr (h : Forall₂ Check.Alike checks₁ checks₂) :
    anyHolds scope checks₁ value = anyHolds scope checks₂ value := by
  induction h with
  | nil => rfl
  | cons hcheck _ ih => rw [anyHolds, anyHolds, hcheck.evaluate, ih]

theorem evaluateOtherwise_congr (h : Option.Rel (Forall₂ Check.Alike) otherwise₁ otherwise₂) :
    evaluateOtherwise scope otherwise₁ value = evaluateOtherwise scope otherwise₂ value := by
  cases h with
  | none => rfl
  | some h => rw [evaluateOtherwise, evaluateOtherwise, evaluateAll_congr scope value h]

theorem evaluateCases_congr (h : Forall₂ SwitchCase.Alike cases₁ cases₂) :
    evaluateCases scope cases₁ value = evaluateCases scope cases₂ value := by
  induction h with
  | nil => rfl
  | cons hcase _ ih =>
      cases hcase with
      | mk hcondition hclause =>
          rw [evaluateCases, evaluateCases, hcondition.evaluate,
            evaluateAll_congr scope value hclause, ih]

/-- An alternative that is a choice itself may take its place: the complaint of an alternative is
not looked at. -/
theorem anyHolds_or (checks : List Check) :
    anyHolds scope [.or checks] value = anyHolds scope checks value := by
  have hverdict : ∀ memory, ((Check.or checks).evaluate scope value memory).1.isHeld =
        (anyHolds scope checks value memory).1 ∧
      ((Check.or checks).evaluate scope value memory).2 =
        (anyHolds scope checks value memory).2 := by
    intro memory
    rw [Check.evaluate, Stateful.bind_apply]
    generalize anyHolds scope checks value memory = outcome
    obtain ⟨_ | _, memory⟩ := outcome <;> exact ⟨rfl, rfl⟩
  funext memory
  obtain ⟨hheld, hmemory⟩ := hverdict memory
  rw [anyHolds, Stateful.bind_apply, hheld, hmemory]
  generalize anyHolds scope checks value memory = outcome
  obtain ⟨_ | _, memory⟩ := outcome <;> rfl

theorem evaluateAll_and (checks : List Check) :
    evaluateAll scope [.and checks] value = evaluateAll scope checks value := by
  funext memory
  simp only [evaluateAll, Check.evaluate, Stateful.bind_apply]
  generalize evaluateAll scope checks value memory = outcome
  obtain ⟨_ | _, memory⟩ := outcome <;> rfl

end Lists

namespace Check.Alike

variable {check₁ check₂ : Check} {checks₁ checks₂ : List Check} {cases₁ cases₂ : List SwitchCase}
  {otherwise₁ otherwise₂ : Option (List Check)}

theorem parenthesized (h : Forall₂ Check.Alike checks₁ checks₂) :
    (Check.parenthesized checks₁).Alike (.parenthesized checks₂) where
  text := by rw [Check.text, Check.text, checkTexts_congr h]
  evaluate scope value := by
    rw [Check.evaluate, Check.evaluate, evaluateAll_congr scope value h]

theorem combine (connective : Connective) (h : Forall₂ Check.Alike checks₁ checks₂) :
    (connective.combine checks₁).Alike (connective.combine checks₂) := by
  have htexts := checkTexts_congr h
  cases connective with
  | or =>
      refine ⟨by simp only [Connective.combine, Check.text, htexts], fun scope value => ?_⟩
      simp only [Connective.combine, Check.evaluate, Check.text, htexts,
        anyHolds_congr scope value h]
  | and =>
      refine ⟨by simp only [Connective.combine, Check.text, htexts], fun scope value => ?_⟩
      simp only [Connective.combine, Check.evaluate, evaluateAll_congr scope value h]

theorem conditional (hcondition : check₁.Alike check₂)
    (hclause : Forall₂ Check.Alike checks₁ checks₂)
    (hotherwise : Option.Rel (Forall₂ Check.Alike) otherwise₁ otherwise₂) :
    (Check.conditional check₁ checks₁ otherwise₁).Alike
      (.conditional check₂ checks₂ otherwise₂) where
  text := by
    rw [Check.text, Check.text, hcondition.text, checkTexts_congr hclause,
      otherwiseTexts_congr hotherwise]
  evaluate scope value := by
    rw [Check.evaluate, Check.evaluate, hcondition.evaluate, evaluateAll_congr scope value hclause,
      evaluateOtherwise_congr scope value hotherwise]

theorem switch (hcases : Forall₂ SwitchCase.Alike cases₁ cases₂)
    (hotherwise : Option.Rel (Forall₂ Check.Alike) otherwise₁ otherwise₂) :
    (Check.switch cases₁ otherwise₁).Alike (.switch cases₂ otherwise₂) where
  text := by
    rw [Check.text, Check.text, caseTexts_congr hcases, otherwiseTexts_congr hotherwise]
  evaluate scope value := by
    rw [Check.evaluate, Check.evaluate, evaluateCases_congr scope value hcases,
      evaluateOtherwise_congr scope value hotherwise]

theorem single (column : String) (h : check₁.Alike check₂) :
    (Check.single (some column) check₁).Alike (.single (some column) check₂) where
  text := by rw [Check.text, Check.text, h.text]
  evaluate scope value := by
    simp only [Check.evaluate, Check.text, h.text, h.evaluate]

/-- A check that only stands for another one. -/
theorem standsFor (check : Check) : (Check.single none check).Alike check where
  text := by rw [Check.text]
  evaluate scope value := by rw [Check.evaluate]

/-- The last part of a combination may be a combination by the same word. -/
theorem nested (connective : Connective) (check : Check) {rest : List Check} (hne : rest ≠ []) :
    (connective.combine [check, connective.combine rest]).Alike
      (connective.combine (check :: rest)) := by
  obtain ⟨next, rest, rfl⟩ := List.exists_cons_of_ne_nil hne
  have htext : (connective.combine [check, connective.combine (next :: rest)]).text =
      (connective.combine (check :: next :: rest)).text := by
    cases connective <;> simp only [Connective.combine, Check.text, checkTexts, Text.joinWith]
  refine ⟨htext, fun scope value => ?_⟩
  cases connective with
  | or =>
      simp only [Connective.combine] at htext ⊢
      rw [Check.evaluate, Check.evaluate, htext, anyHolds, anyHolds_or,
        anyHolds.eq_2 scope value check]
  | and =>
      simp only [Connective.combine]
      rw [Check.evaluate, Check.evaluate, evaluateAll, evaluateAll_and,
        evaluateAll.eq_2 scope value check]

end Check.Alike

end CsvSchema
