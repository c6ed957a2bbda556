import CsvSchema.Proofs.Verdict
import CsvSchema.Storage.Memory

/-!
# Switches as nested conditionals

A switch does what conditionals do that are nested in each other's last clauses, one for each case:
they evaluate the same conditions in the same order, so they leave the same session behind,
`Session.validate_switch_eq_nested`.  If no case applies and there is no clause for that, the
conditions have been evaluated one after the other and nothing has been reported.
-/

namespace CsvSchema

/-- The check that decides whether a case applies. -/
def SwitchCase.condition : SwitchCase → Check
  | .mk condition _ => condition

/-- The clause for when earlier cases do not apply: a conditional for the next case, which has what
follows in its last clause, up to the clause for when no case applies. -/
def nestedOtherwise (otherwise : Option (List Check)) : List SwitchCase → Option (List Check)
  | [] => otherwise
  | .mk condition clause :: rest =>
      some [.conditional condition clause (nestedOtherwise otherwise rest)]

namespace Session

/-- Evaluate the conditions of all of some cases, one after the other.  None of them reports. -/
def validateConditions (environment : Environment) (row : Row) (fold : Bool)
    (cases : List SwitchCase) (value : String) : StateM Session (List Bool) :=
  cases.mapM fun case => validate environment row fold none case.condition value

variable (environment : Environment) (row : Row) (fold : Bool) (level : Option Severity)
  (value : String)

/-- A clause with a single check is that check. -/
theorem validateAll_singleton (check : Check) (session : Session) :
    validateAll environment row fold level [check] value session =
      validate environment row fold level check value session := by
  simp only [validateAll, Stateful.bind_apply]
  generalize validate environment row fold level check value session = outcome
  obtain ⟨_ | _, after⟩ := outcome <;> rfl

/-- A conditional does what one of its clauses says, in the session that the condition leaves. -/
theorem validate_conditional_apply (condition : Check) (clause : List Check)
    (otherwise : Option (List Check)) (session : Session) :
    validate environment row fold level (.conditional condition clause otherwise) value session =
      let outcome := validate environment row fold none condition value session
      if outcome.1 then validateAll environment row fold level clause value outcome.2
      else validateOtherwise environment row fold level otherwise value outcome.2 := by
  simp only [validate, Stateful.bind_apply]
  generalize validate environment row fold none condition value session = outcome
  obtain ⟨_ | _, after⟩ := outcome <;> rfl

/-- A switch does what its first case says if that applies, and otherwise what a switch of the other
cases does in the session that the condition leaves. -/
theorem validate_switch_cons (condition : Check) (clause : List Check) (rest : List SwitchCase)
    (otherwise : Option (List Check)) (session : Session) :
    validate environment row fold level (.switch (.mk condition clause :: rest) otherwise) value
        session =
      let outcome := validate environment row fold none condition value session
      if outcome.1 then validateAll environment row fold level clause value outcome.2
      else validate environment row fold level (.switch rest otherwise) value outcome.2 := by
  simp only [validate, validateCases, Stateful.bind_apply]
  generalize validate environment row fold none condition value session = outcome
  obtain ⟨_ | _, after⟩ := outcome <;> rfl

/-- What is nested for some cases does what a switch of these cases does. -/
theorem validateOtherwise_nestedOtherwise (otherwise : Option (List Check))
    (cases : List SwitchCase) (session : Session) :
    validateOtherwise environment row fold level (nestedOtherwise otherwise cases) value session =
      validate environment row fold level (.switch cases otherwise) value session := by
  -- The other cases start from the session that the first condition leaves, hence `generalizing`.
  induction cases generalizing session with
  | nil =>
      simp only [nestedOtherwise, validate, validateCases, Stateful.bind_apply,
        Stateful.pure_apply]
  | cons case rest ih =>
      obtain ⟨condition, clause⟩ := case
      rw [validate_switch_cons, nestedOtherwise, validateOtherwise, validateAll_singleton,
        validate_conditional_apply]
      simp only [ih]

/-- A switch of which no case applies, and which has no clause for that, holds once its conditions
have been evaluated. -/
theorem validate_switch_of_forall_not {cases : List SwitchCase} {session : Session}
    (h : ∀ applies ∈ (validateConditions environment row fold cases value session).1,
      applies = false) :
    validate environment row fold level (.switch cases none) value session =
      (true, (validateConditions environment row fold cases value session).2) := by
  induction cases generalizing session with
  | nil => rfl
  | cons case rest ih =>
      obtain ⟨condition, clause⟩ := case
      rw [validateConditions, Stateful.mapM_cons_apply] at h ⊢
      obtain ⟨hfirst, hrest⟩ := List.forall_mem_cons.1 h
      simp only [SwitchCase.condition] at hfirst
      rw [validate_switch_cons]
      simp only [hfirst, Bool.false_eq_true, if_false]
      exact ih hrest

/-- A check that is evaluated silently leaves the report as it is. -/
theorem keeps_report_silent (report : Report) (check : Check) :
    Stateful.Keeps (fun session : Session => session.report = report)
      (validate environment row fold none check value) := by
  intro session hsession
  rw [validate_eq_settle, settle_silent]
  exact hsession

theorem keeps_report_conditions (report : Report) (cases : List SwitchCase) :
    Stateful.Keeps (fun session : Session => session.report = report)
      (validateConditions environment row fold cases value) :=
  Stateful.Keeps.mapM fun case _ =>
    keeps_report_silent environment row fold value report case.condition

/-- A switch leaves the same outcome and the same session as a conditional for its first case that
has a conditional for the second case as the only check of its last clause, and so on, with the
clause for when no case applies in the last one.  Without such a clause a switch of which no case
applies holds, and nothing but the evaluation of its conditions has changed the session; the report
is what it was. -/
theorem validate_switch_eq_nested (session : Session) :
    (∀ condition clause rest otherwise,
      validate environment row fold level (.switch (.mk condition clause :: rest) otherwise) value
          session =
        validate environment row fold level
          (.conditional condition clause (nestedOtherwise otherwise rest)) value session) ∧
      ∀ cases,
        let (answers, after) := validateConditions environment row fold cases value session
        (∀ applies ∈ answers, applies = false) →
          validate environment row fold level (.switch cases none) value session = (true, after) ∧
            after.report = session.report := by
  constructor
  · intro condition clause rest otherwise
    rw [validate_switch_cons, validate_conditional_apply]
    simp only [validateOtherwise_nestedOtherwise]
  · intro cases hanswers
    exact ⟨validate_switch_of_forall_not environment row fold level value hanswers,
      keeps_report_conditions environment row fold value session.report cases session rfl⟩

/-- Neither condition applies to the value `b`, but the first one remembers it.  The switch holds
without a message, as the nested conditionals do, and `b` is no longer new. -/
theorem validate_switch_eq_nested_of_two_conditions :
    let environment : Environment := ⟨.initial, .initial, MemoryStorage.empty.toStorage⟩
    let first : Check := .and [.atom (.unique [] 0), .atom (.compare .is (.literal "a"))]
    let second : Check := .atom (.compare .is (.literal "c"))
    let cases : List SwitchCase := [.mk first [.atom (.value .empty)], .mk second []]
    let nested : Check := .conditional first [.atom (.value .empty)]
      (some [.conditional second [] none])
    let (answers, after) := validateConditions environment ⟨[]⟩ false cases "b" (.start true)
    (∀ applies ∈ answers, applies = false) ∧
      validate environment ⟨[]⟩ false (some .error) (.switch cases none) "b" (.start true) =
        (true, after) ∧
      validate environment ⟨[]⟩ false (some .error) nested "b" (.start true) = (true, after) ∧
      after.report = Report.empty ∧ (Memory.isNew 0 ["b"] after.memory).1 = false := by
  intro environment first second cases nested
  obtain ⟨hnested, hheld⟩ :=
    validate_switch_eq_nested environment ⟨[]⟩ false (some .error) "b" (.start true)
  have hanswers : ∀ applies ∈
      (validateConditions environment ⟨[]⟩ false cases "b" (.start true)).1, applies = false := by
    decide +kernel
  obtain ⟨hswitch, hreport⟩ := hheld cases hanswers
  exact ⟨hanswers, hswitch, (hnested first _ _ none).symm.trans hswitch, hreport, by decide +kernel⟩

end Session

end CsvSchema
