import CsvSchema.Proofs.Evaluation
import CsvSchema.Proofs.Rendering.Alike

/-!
# Reading phrases

Checks can be read back from their phrases, up to checks that cannot be told apart from them,
`alike_of_phrases_eq`.  Slots are not written, so they are given out to the checks that have one as
these are read.
-/

namespace CsvSchema

open List (Forall₂)

/-- How many slots an atomic check with a phrase has. -/
def Phrase.slotCount (phrase : Phrase) : Nat :=
  match phrase.keyword? with
  | some keyword => if ["unique", "identical", "integrityCheck"].contains keyword then 1 else 0
  | none => 0

/-- An atomic check that can have been read from a schema is written as a phrase and has certain
slots. -/
structure Atom.IsSpelled (atom : Atom) (phrase : Phrase) (slots : List Nat) : Prop where
  wellFormed : atom.WellFormed
  isRead : atom.IsRead
  phrase : atom.phrase = phrase
  slots : atom.slots = slots

instance : Nonempty Atom := ⟨.identical 0⟩

/-- An atomic check with a phrase and with certain slots. -/
noncomputable def Atom.ofPhrase (phrase : Phrase) (slots : List Nat) : Atom :=
  Classical.epsilon fun atom => atom.IsSpelled phrase slots

/-- A combination of a check with the first of some others. -/
def combineFirst (connective : Connective) (check : Check) : List Check → List Check
  | [] => [check]
  | next :: rest => connective.combine [check, next] :: rest

/-- The check with some clauses: a condition, what is to hold with it, and perhaps what is to hold
without it. -/
def conditionalOf : List (List Check) → Check
  | (condition :: _) :: clause :: otherwise => .conditional condition clause otherwise.head?
  | _ => .parenthesized []

/-- A case before others, from the check that is its condition. -/
def addCase (condition clause : List Check) (others : List SwitchCase × Option (List Check)) :
    List SwitchCase × Option (List Check) :=
  (condition.map (SwitchCase.mk · clause) ++ others.1, others.2)

/-- Read the phrase of an atomic check. -/
noncomputable def readAtom (phrase : Phrase) : StateM (List Nat) Check := fun slots =>
  (.atom (.ofPhrase phrase (slots.take phrase.slotCount)), slots.drop phrase.slotCount)

mutual

/-- Read one phrase as a check. -/
noncomputable def readCheck : Phrase → StateM (List Nat) Check
  | .within column phrase => return .single (some column) (← readCheck phrase)
  | .call keyword arguments => do
      if keyword = "" then return .parenthesized (← readClauses arguments).flatten
      else if keyword = "if" then return conditionalOf (← readClauses arguments)
      else if keyword = "switch" then
        let cases ← readCases arguments
        return .switch cases.1 cases.2
      else readAtom (.call keyword arguments)
  | phrase => readAtom phrase

/-- Read phrases as checks.  A combination reaches as far as it can. -/
noncomputable def readClause : List Phrase → StateM (List Nat) (List Check)
  | [] => return []
  | [phrase] => return [← readCheck phrase]
  | phrase :: next :: rest => do
      let check ← readCheck phrase
      match Connective.ofPhrase? next with
      | some connective => return combineFirst connective check (← readClause rest)
      | none => return check :: (← readClause (next :: rest))

/-- Read each of some arguments as checks. -/
noncomputable def readClauses : List (List Phrase) → StateM (List Nat) (List (List Check))
  | [] => return []
  | argument :: rest => return (← readClause argument) :: (← readClauses rest)

/-- Read arguments as cases and perhaps a clause for when none of them holds. -/
noncomputable def readCases :
    List (List Phrase) → StateM (List Nat) (List SwitchCase × Option (List Check))
  | [] => return ([], none)
  | [.call "" [condition, clause]] :: rest => do
      let condition ← readClause condition
      let clause ← readClause clause
      return addCase condition clause (← readCases rest)
  | argument :: _ => return ([], some (← readClause argument))

end

section Atoms

namespace Atom

variable {atom : Atom}

theorem length_slots (atom : Atom) : atom.slots.length = atom.phrase.slotCount := by
  rw [Phrase.slotCount, keyword?_phrase]
  cases atom with
  | value test => cases test <;> rfl
  | compare relation operand => cases relation <;> rfl
  | _ => rfl

/-- Another atomic check that is spelled in the same way cannot be told apart from the first one. -/
theorem alike_ofPhrase (hwell : atom.WellFormed) (hread : atom.IsRead) :
    (Check.atom atom).Alike (.atom (ofPhrase atom.phrase atom.slots)) := by
  have hspelled : (ofPhrase atom.phrase atom.slots).IsSpelled atom.phrase atom.slots :=
    Classical.epsilon_spec (p := fun other : Atom => other.IsSpelled atom.phrase atom.slots)
      ⟨atom, hwell, hread, rfl, rfl⟩
  have htext : (Check.atom atom).text = (Check.atom (ofPhrase atom.phrase atom.slots)).text := by
    rw [Check.text, Check.text, text_eq hwell, text_eq hspelled.wellFormed, hspelled.phrase]
  refine ⟨htext, fun scope value => ?_⟩
  have hverdict := fun finding : Finding => finding.verdict_congr htext value
  simp only [Check.evaluate, hverdict,
    evaluate_eq_of_phrase_eq hread hspelled.isRead hspelled.phrase.symm hspelled.slots.symm]

/-- No keyword of an atomic check is one that checks are put together by. -/
theorem keyword_notMem (atom : Atom) : atom.keyword ∉ ["", "if", "switch", "or", "and"] := by
  cases atom with
  | value test => cases test <;> (simp only [keyword, ValueTest.keyword]; decide)
  | compare relation operand =>
      cases relation <;> (simp only [keyword, Relation.keyword]; decide)
  | _ =>
      simp only [keyword]
      decide

theorem notMem_of_keyword?_phrase {atom : Atom} {keyword : String}
    (h : atom.phrase.keyword? = some keyword) : keyword ∉ ["", "if", "switch", "or", "and"] := by
  rw [keyword?_phrase, Option.some.injEq] at h
  rw [← h]
  exact atom.keyword_notMem

/-- The phrase of an atomic check is read as one. -/
theorem readCheck_phrase (atom : Atom) : readCheck atom.phrase = readAtom atom.phrase := by
  cases hphrase : atom.phrase with
  | call keyword arguments =>
      have hother := notMem_of_keyword?_phrase (by rw [hphrase, Phrase.keyword?])
      simp only [List.mem_cons, not_or] at hother
      rw [readCheck, if_neg hother.1, if_neg hother.2.1, if_neg hother.2.2.1]
  | within column phrase =>
      have hkeyword := atom.keyword?_phrase
      rw [hphrase] at hkeyword
      cases hkeyword
  | _ => rw [readCheck] <;> simp

theorem ofPhrase?_phrase (atom : Atom) : Connective.ofPhrase? atom.phrase = none := by
  cases hphrase : atom.phrase with
  | word text =>
      have hother := notMem_of_keyword?_phrase (by rw [hphrase, Phrase.keyword?])
      simp only [List.mem_cons, not_or] at hother
      rw [Connective.ofPhrase?, if_neg hother.2.2.2.1, if_neg hother.2.2.2.2.1]
  | _ => rfl

end Atom

end Atoms

section Checks

/-- Whether a phrase is the one of a case. -/
def Phrase.isCase : Phrase → Bool
  | .call "" [_, _] => true
  | _ => false

theorem Phrase.isCase_eq_false {keyword : String} (h : keyword ≠ "")
    (arguments : List (List Phrase)) : (call keyword arguments).isCase = false := by
  unfold isCase
  split
  · rename_i heq
    exact absurd (call.inj heq).1 h
  · rfl

/-- No combination reaches into phrases that do not start with a connective. -/
def EndsCombination (rest : List Phrase) : Prop :=
  ∀ phrase ∈ rest.head?, Connective.ofPhrase? phrase = none

theorem endsCombination_nil : EndsCombination [] := by simp [EndsCombination]

/-- A check comes back, up to one that cannot be told apart from it, when its phrases are read and
its slots are given out, whatever phrases and slots follow. -/
structure Check.ComesBack (check : Check) : Prop where
  starts : ∃ phrase rest, check.phrases = phrase :: rest ∧ Connective.ofPhrase? phrase = none
  no_case : ∀ phrase ∈ check.phrases, phrase.isCase = false
  /-- A check that is no combination is one phrase. -/
  alone : check.isCombination = false → ∃ phrase, check.phrases = [phrase] ∧
    ∀ slots, ∃ read, check.Alike read ∧ readCheck phrase (check.slots ++ slots) = (read, slots)
  followed : ∀ rest slots, EndsCombination rest → ∃ read, check.Alike read ∧
    readClause (check.phrases ++ rest) (check.slots ++ slots) =
      (read :: (readClause rest slots).1, (readClause rest slots).2)

/-- One phrase that comes back comes back whatever follows. -/
theorem Check.comesBack_of_alone {check : Check} {phrase : Phrase}
    (hphrases : check.phrases = [phrase])
    (hstarts : Connective.ofPhrase? phrase = none) (hcase : phrase.isCase = false)
    (hread : ∀ slots, ∃ read, check.Alike read ∧
      readCheck phrase (check.slots ++ slots) = (read, slots)) : check.ComesBack where
  starts := ⟨phrase, [], hphrases, hstarts⟩
  no_case := by
    rw [hphrases]
    exact List.forall_mem_singleton.2 hcase
  alone _ := ⟨phrase, hphrases, hread⟩
  followed rest slots hends := by
    obtain ⟨read, halike, hcheck⟩ := hread slots
    refine ⟨read, halike, ?_⟩
    rw [hphrases, List.singleton_append]
    cases rest with
    | nil =>
        simp only [readClause, Stateful.bind_apply, hcheck]
        rfl
    | cons next rest =>
        simp only [readClause, Stateful.bind_apply, hcheck, hends next rfl]
        rfl

section Lists

variable {checks : List Check}

theorem endsCombination_clausePhrases (h : ∀ check ∈ checks, check.ComesBack) :
    EndsCombination (clausePhrases checks) := by
  cases checks with
  | nil => exact endsCombination_nil
  | cons check rest =>
      obtain ⟨phrase, more, hphrases, hstarts⟩ := (h check List.mem_cons_self).starts
      rw [clausePhrases, hphrases]
      rintro _ ⟨⟩
      exact hstarts

theorem no_case_clausePhrases (h : ∀ check ∈ checks, check.ComesBack) :
    ∀ phrase ∈ clausePhrases checks, phrase.isCase = false := by
  induction checks with
  | nil => simp [clausePhrases]
  | cons check rest ih =>
      obtain ⟨hcheck, hrest⟩ := List.forall_mem_cons.1 h
      rw [clausePhrases]
      exact List.forall_mem_append.2 ⟨hcheck.no_case, ih hrest⟩

theorem no_case_joinedPhrases (connective : Connective) (h : ∀ check ∈ checks, check.ComesBack) :
    ∀ phrase ∈ joinedPhrases connective checks, phrase.isCase = false := by
  induction checks with
  | nil => simp [joinedPhrases]
  | cons check rest ih =>
      obtain ⟨hcheck, hrest⟩ := List.forall_mem_cons.1 h
      cases rest with
      | nil =>
          rw [joinedPhrases]
          exact hcheck.no_case
      | cons next rest =>
          rw [joinedPhrases]
          exact List.forall_mem_append.2
            ⟨hcheck.no_case, List.forall_mem_cons.2 ⟨rfl, ih hrest⟩⟩

/-- Checks that come back come back one after the other. -/
theorem readClause_clausePhrases (h : ∀ check ∈ checks, check.ComesBack) (slots : List Nat) :
    ∃ read, Forall₂ Check.Alike checks read ∧
      readClause (clausePhrases checks) (checkSlots checks ++ slots) = (read, slots) := by
  induction checks with
  | nil => exact ⟨[], .nil, rfl⟩
  | cons check rest ih =>
      obtain ⟨hcheck, hrest⟩ := List.forall_mem_cons.1 h
      obtain ⟨others, hothers, hreadRest⟩ := ih hrest
      obtain ⟨first, hfirst, hreadFirst⟩ := hcheck.followed (clausePhrases rest)
        (checkSlots rest ++ slots) (endsCombination_clausePhrases hrest)
      refine ⟨first :: others, .cons hfirst hothers, ?_⟩
      rw [clausePhrases, checkSlots, List.append_assoc, hreadFirst, hreadRest]

/-- A check alone is read as a clause of its own. -/
theorem Check.ComesBack.readClause {check : Check} (h : check.ComesBack) (slots : List Nat) :
    ∃ read, check.Alike read ∧
      CsvSchema.readClause check.phrases (check.slots ++ slots) = ([read], slots) := by
  obtain ⟨read, halike, hread⟩ := h.followed [] slots endsCombination_nil
  rw [List.append_nil] at hread
  exact ⟨read, halike, hread⟩

/-- The check that is written as some checks with a connective between them. -/
def joined (connective : Connective) : List Check → Check
  | [check] => check
  | checks => connective.combine checks

theorem joined_of_two_le (connective : Connective) (h : 2 ≤ checks.length) :
    joined connective checks = connective.combine checks := by
  unfold joined
  split
  · simp at h
  · rfl

/-- A check combined with what the others are joined to is what all of them are joined to. -/
theorem alike_joined (connective : Connective) (check : Check) {rest : List Check}
    (hne : rest ≠ []) :
    (connective.combine [check, joined connective rest]).Alike
      (joined connective (check :: rest)) := by
  match rest with
  | [] => exact absurd rfl hne
  | [next] => exact .refl _
  | next :: other :: rest =>
      rw [joined_of_two_le connective (by simp), joined_of_two_le connective (by simp)]
      exact Check.Alike.nested connective check hne

/-- Phrases with a connective between them are read as nested combinations. -/
theorem readClause_joinedPhrases (connective : Connective) (hne : checks ≠ [])
    (h : ∀ check ∈ checks, check.ComesBack)
    (hsimple : ∀ check ∈ checks.dropLast, check.isCombination = false) {rest : List Phrase}
    (hends : EndsCombination rest) (slots : List Nat) :
    ∃ read, (joined connective checks).Alike read ∧
      readClause (joinedPhrases connective checks ++ rest) (checkSlots checks ++ slots) =
        (read :: (readClause rest slots).1, (readClause rest slots).2) := by
  induction checks with
  | nil => exact absurd rfl hne
  | cons check more ih =>
      obtain ⟨hcheck, hmore⟩ := List.forall_mem_cons.1 h
      by_cases hlast : more = []
      · subst hlast
        obtain ⟨read, halike, hread⟩ := hcheck.followed rest slots hends
        rw [joinedPhrases, checkSlots, checkSlots, List.append_nil]
        exact ⟨read, halike, hread⟩
      · rw [List.dropLast_cons_of_ne_nil hlast] at hsimple
        obtain ⟨halone, hsimple⟩ := List.forall_mem_cons.1 hsimple
        obtain ⟨others, hothers, hreadOthers⟩ := ih hlast hmore hsimple
        obtain ⟨phrase, hphrases, hphrase⟩ := hcheck.alone halone
        obtain ⟨first, hfirst, hreadFirst⟩ := hphrase (checkSlots more ++ slots)
        have hnested := alike_joined connective check hlast
        have hparts := Check.Alike.combine connective (.cons hfirst (.cons hothers .nil))
        -- What is read is nested, which does not tell it apart from the combination.
        refine ⟨connective.combine [first, others], hnested.symm.trans hparts, ?_⟩
        obtain ⟨next, more, rfl⟩ := List.exists_cons_of_ne_nil hlast
        rw [joinedPhrases, hphrases, checkSlots, List.append_assoc, List.append_assoc,
          List.singleton_append, List.cons_append, readClause]
        simp only [Stateful.bind_apply, hreadFirst, Connective.ofPhrase?_word, hreadOthers]
        rfl

end Lists

section Forms

/-- A case comes back if its condition and the checks of its clause do. -/
inductive SwitchCase.ComesBack : SwitchCase → Prop
  | mk {condition : Check} {clause : List Check} (hcondition : condition.ComesBack)
      (hclause : ∀ check ∈ clause, check.ComesBack) : SwitchCase.ComesBack (.mk condition clause)

variable {checks clause : List Check} {condition : Check} {otherwise : Option (List Check)}
  {cases : List SwitchCase}

theorem Check.comesBack_atom {atom : Atom} (hwell : atom.WellFormed) (hread : atom.IsRead) :
    (Check.atom atom).ComesBack := by
  have hcase : atom.phrase.isCase = false := by
    cases hphrase : atom.phrase with
    | call keyword arguments =>
        have hother := Atom.notMem_of_keyword?_phrase (by rw [hphrase, Phrase.keyword?])
        rw [List.mem_cons, not_or] at hother
        exact Phrase.isCase_eq_false hother.1 arguments
    | _ => rfl
  refine comesBack_of_alone (by rw [Check.phrases]) atom.ofPhrase?_phrase hcase fun slots => ?_
  refine ⟨_, atom.alike_ofPhrase hwell hread, ?_⟩
  rw [Check.slots, atom.readCheck_phrase, readAtom, ← atom.length_slots, List.take_left,
    List.drop_left]

theorem Check.comesBack_combine (connective : Connective) (hlength : 2 ≤ checks.length)
    (h : ∀ check ∈ checks, check.ComesBack)
    (hsimple : ∀ check ∈ checks.dropLast, check.isCombination = false) :
    (connective.combine checks).ComesBack := by
  have hne : checks ≠ [] := List.length_pos_iff.1 (by omega)
  have hphrases : (connective.combine checks).phrases = joinedPhrases connective checks := by
    cases connective <;> simp only [Connective.combine, Check.phrases]
  have hslots : (connective.combine checks).slots = checkSlots checks := by
    cases connective <;> simp only [Connective.combine, Check.slots]
  have hcombination : (connective.combine checks).isCombination = true := by
    cases connective <;> rfl
  refine ⟨?_, ?_, fun halone => ?_, fun rest slots hends => ?_⟩
  · rw [hphrases]
    obtain ⟨check, others, rfl⟩ := List.exists_cons_of_ne_nil hne
    have hothers : others ≠ [] := List.length_pos_iff.1 (Nat.le_of_succ_le_succ hlength)
    obtain ⟨next, more, rfl⟩ := List.exists_cons_of_ne_nil hothers
    obtain ⟨phrase, rest, hcheck, hstarts⟩ := (h check List.mem_cons_self).starts
    rw [joinedPhrases, hcheck]
    exact ⟨phrase, _, rfl, hstarts⟩
  · rw [hphrases]
    exact no_case_joinedPhrases connective h
  · rw [hcombination] at halone
    cases halone
  · rw [hphrases, hslots, ← joined_of_two_le connective hlength]
    exact readClause_joinedPhrases connective hne h hsimple hends slots

theorem Check.comesBack_parenthesized (h : ∀ check ∈ checks, check.ComesBack) :
    (Check.parenthesized checks).ComesBack := by
  refine comesBack_of_alone (by rw [Check.phrases]) rfl rfl fun slots => ?_
  obtain ⟨read, halike, hread⟩ := readClause_clausePhrases h slots
  refine ⟨.parenthesized read, .parenthesized halike, ?_⟩
  rw [Check.slots, readCheck, if_pos rfl]
  simp only [readClauses, Stateful.bind_apply, Stateful.pure_apply, hread, List.flatten_cons,
    List.flatten_nil, List.append_nil]

theorem readClauses_otherwiseArguments
    (h : ∀ checks ∈ otherwise, ∀ check ∈ checks, check.ComesBack) (slots : List Nat) :
    ∃ read : Option (List Check), Option.Rel (Forall₂ Check.Alike) otherwise read ∧
      readClauses (otherwiseArguments otherwise) (otherwiseSlots otherwise ++ slots) =
        (read.toList, slots) := by
  cases otherwise with
  | none => exact ⟨none, .none, rfl⟩
  | some checks =>
      obtain ⟨read, halike, hread⟩ := readClause_clausePhrases (h checks rfl) slots
      refine ⟨some read, .some halike, ?_⟩
      simp only [otherwiseArguments, otherwiseSlots, readClauses, Stateful.bind_apply,
        Stateful.pure_apply, hread, Option.toList_some]

theorem Check.comesBack_conditional (hcondition : condition.ComesBack)
    (hclause : ∀ check ∈ clause, check.ComesBack)
    (hotherwise : ∀ checks ∈ otherwise, ∀ check ∈ checks, check.ComesBack) :
    (Check.conditional condition clause otherwise).ComesBack := by
  refine comesBack_of_alone (by rw [Check.phrases]) rfl
    (Phrase.isCase_eq_false (by decide) _) fun slots => ?_
  obtain ⟨others, hothers, hreadOthers⟩ := readClauses_otherwiseArguments hotherwise slots
  obtain ⟨inner, hinner, hreadInner⟩ :=
    readClause_clausePhrases hclause (otherwiseSlots otherwise ++ slots)
  obtain ⟨first, hfirst, hreadFirst⟩ :=
    hcondition.readClause (checkSlots clause ++ (otherwiseSlots otherwise ++ slots))
  refine ⟨.conditional first inner others, .conditional hfirst hinner hothers, ?_⟩
  rw [Check.slots, List.append_assoc, List.append_assoc, readCheck, if_neg (by decide),
    if_pos rfl]
  simp only [readClauses, Stateful.bind_apply, Stateful.pure_apply, hreadFirst, hreadInner,
    hreadOthers, conditionalOf, Option.head?_toList]

/-- A clause is not read as a case. -/
theorem readCases_otherwiseArguments
    (h : ∀ checks ∈ otherwise, ∀ check ∈ checks, check.ComesBack) (slots : List Nat) :
    ∃ read : Option (List Check), Option.Rel (Forall₂ Check.Alike) otherwise read ∧
      readCases (otherwiseArguments otherwise) (otherwiseSlots otherwise ++ slots) =
        (([], read), slots) := by
  cases otherwise with
  | none => exact ⟨none, .none, rfl⟩
  | some checks =>
      obtain ⟨read, halike, hread⟩ := readClause_clausePhrases (h checks rfl) slots
      have hcase := no_case_clausePhrases (h checks rfl)
      refine ⟨some read, .some halike, ?_⟩
      rw [otherwiseArguments, otherwiseSlots, readCases]
      · simp only [Stateful.bind_apply, Stateful.pure_apply, hread]
      · intro condition clause hphrases
        have hfirst := hcase (.call "" [condition, clause]) (by rw [hphrases]; simp)
        cases hfirst

theorem readCases_caseArguments (hcases : ∀ switchCase ∈ cases, switchCase.ComesBack)
    (hotherwise : ∀ checks ∈ otherwise, ∀ check ∈ checks, check.ComesBack) (slots : List Nat) :
    ∃ (read : List SwitchCase) (others : Option (List Check)), Forall₂ SwitchCase.Alike cases read ∧
      Option.Rel (Forall₂ Check.Alike) otherwise others ∧
      readCases (caseArguments cases ++ otherwiseArguments otherwise)
        (caseSlots cases ++ (otherwiseSlots otherwise ++ slots)) = ((read, others), slots) := by
  induction cases with
  | nil =>
      obtain ⟨others, hothers, hread⟩ := readCases_otherwiseArguments hotherwise slots
      exact ⟨[], others, .nil, hothers, hread⟩
  | cons switchCase rest ih =>
      obtain ⟨hcase, hrest⟩ := List.forall_mem_cons.1 hcases
      obtain ⟨read, others, halike, hothers, hread⟩ := ih hrest
      cases hcase with
      | @mk condition clause hcondition hclause =>
          obtain ⟨inner, hinner, hreadInner⟩ := readClause_clausePhrases hclause
            (caseSlots rest ++ (otherwiseSlots otherwise ++ slots))
          obtain ⟨first, hfirst, hreadFirst⟩ := hcondition.readClause
            (checkSlots clause ++ (caseSlots rest ++ (otherwiseSlots otherwise ++ slots)))
          refine ⟨.mk first inner :: read, others, .cons (.mk hfirst hinner) halike, hothers, ?_⟩
          rw [caseArguments, caseSlots, SwitchCase.slots, List.append_assoc, List.append_assoc,
            List.cons_append, readCases]
          simp only [Stateful.bind_apply, Stateful.pure_apply, hreadFirst, hreadInner, hread,
            addCase, List.map_cons, List.map_nil, List.singleton_append]

theorem Check.comesBack_switch (hcases : ∀ switchCase ∈ cases, switchCase.ComesBack)
    (hotherwise : ∀ checks ∈ otherwise, ∀ check ∈ checks, check.ComesBack) :
    (Check.switch cases otherwise).ComesBack := by
  refine comesBack_of_alone (by rw [Check.phrases]) rfl
    (Phrase.isCase_eq_false (by decide) _) fun slots => ?_
  obtain ⟨read, others, halike, hothers, hread⟩ :=
    readCases_caseArguments hcases hotherwise slots
  refine ⟨.switch read others, .switch halike hothers, ?_⟩
  rw [Check.slots, List.append_assoc, readCheck, if_neg (by decide), if_neg (by decide),
    if_pos rfl]
  simp only [Stateful.bind_apply, Stateful.pure_apply, hread]

/-- A check that only stands for another one is written like that one. -/
theorem Check.comesBack_standsFor {check : Check} (h : check.ComesBack) :
    (Check.single none check).ComesBack := by
  have halike := Check.Alike.standsFor check
  refine ⟨?_, ?_, fun halone => ?_, fun rest slots hends => ?_⟩
  · rw [Check.phrases]
    exact h.starts
  · rw [Check.phrases]
    exact h.no_case
  · obtain ⟨phrase, hphrases, hphrase⟩ := h.alone halone
    refine ⟨phrase, by rw [Check.phrases, hphrases], fun slots => ?_⟩
    obtain ⟨read, hread, hslots⟩ := hphrase slots
    exact ⟨read, halike.trans hread, by rw [Check.slots, hslots]⟩
  · obtain ⟨read, hread, hslots⟩ := h.followed rest slots hends
    exact ⟨read, halike.trans hread, by rw [Check.phrases, Check.slots, hslots]⟩

theorem Check.comesBack_within {check : Check} (column : String) (h : check.ComesBack)
    (hsimple : check.isCombination = false) : (Check.single (some column) check).ComesBack := by
  obtain ⟨phrase, hphrases, hphrase⟩ := h.alone hsimple
  have hwithin : (Check.single (some column) check).phrases = [.within column phrase] := by
    rw [Check.phrases, hphrases, withinFirst]
  refine comesBack_of_alone hwithin rfl rfl fun slots => ?_
  obtain ⟨read, halike, hread⟩ := hphrase slots
  refine ⟨.single (some column) read, .single column halike, ?_⟩
  rw [Check.slots, readCheck]
  simp only [Stateful.bind_apply, Stateful.pure_apply, hread]

end Forms

section Renamed

variable (f : Nat → Nat)

theorem Atom.isRead_mapSlots {atom : Atom} (h : atom.IsRead) : (atom.mapSlots f).IsRead := by
  cases atom <;> exact h

theorem Atom.wellFormed_mapSlots {atom : Atom} (h : atom.WellFormed) :
    (atom.mapSlots f).WellFormed := by
  cases atom <;> exact h

/-- Renamed parts of a combination can be told apart like those that were renamed. -/
theorem isCombination_of_mem_dropLast {checks : List Check}
    (h : ∀ check ∈ checks.dropLast, check.isCombination = false) :
    ∀ check ∈ (mapCheckSlots f checks).dropLast, check.isCombination = false := by
  rw [mapCheckSlots_eq_map, ← List.map_dropLast]
  intro renamed hmem
  obtain ⟨check, hcheck, rfl⟩ := List.mem_map.1 hmem
  rw [check.isCombination_mapSlots]
  exact h check hcheck

theorem two_le_length_mapCheckSlots {checks : List Check} (h : 2 ≤ checks.length) :
    2 ≤ (mapCheckSlots f checks).length := by
  rwa [mapCheckSlots_eq_map, List.length_map]

mutual

/-- A well-formed check with a legible text comes back if its atomic checks can have been read,
whatever the numbers of its slots are. -/
theorem Check.comesBack {check : Check} (hwell : check.WellFormed) (h : check.IsLegible)
    (hread : ∀ atom ∈ check.atoms, atom.IsRead) : (check.mapSlots f).ComesBack := by
  cases hwell with
  | atom hatom =>
      rw [Check.atoms, List.forall_mem_singleton] at hread
      rw [Check.mapSlots]
      exact Check.comesBack_atom (Atom.wellFormed_mapSlots f hatom) (Atom.isRead_mapSlots f hread)
  | or hlength hchecks =>
      cases h with
      | or h hsimple =>
          rw [Check.atoms] at hread
          rw [Check.mapSlots]
          exact Check.comesBack_combine .or (two_le_length_mapCheckSlots f hlength)
            (forall_comesBack hchecks h hread) (isCombination_of_mem_dropLast f hsimple)
  | and hlength hchecks =>
      cases h with
      | and h hsimple =>
          rw [Check.atoms] at hread
          rw [Check.mapSlots]
          exact Check.comesBack_combine .and (two_le_length_mapCheckSlots f hlength)
            (forall_comesBack hchecks h hread) (isCombination_of_mem_dropLast f hsimple)
  | parenthesized hne hchecks =>
      cases h with
      | parenthesized h =>
          rw [Check.atoms] at hread
          rw [Check.mapSlots]
          exact Check.comesBack_parenthesized (forall_comesBack hchecks h hread)
  | conditional hcondition hclause hchecks hotherwise hothers =>
      cases h with
      | conditional hcondition' hchecks' hothers' =>
          rw [Check.atoms, List.forall_mem_append, List.forall_mem_append] at hread
          rw [Check.mapSlots]
          exact Check.comesBack_conditional (Check.comesBack hcondition hcondition' hread.1.1)
            (forall_comesBack hchecks hchecks' hread.1.2)
            (forall_comesBack_otherwise hothers hothers' hread.2)
  | switch hne hcases hotherwise hothers =>
      cases h with
      | switch hcases' hothers' =>
          rw [Check.atoms, List.forall_mem_append] at hread
          rw [Check.mapSlots]
          exact Check.comesBack_switch (forall_comesBack_cases hcases hcases' hread.1)
            (forall_comesBack_otherwise hothers hothers' hread.2)
  | @single column check hcolumn hcheck =>
      cases h with
      | single hcolumn' h =>
          rw [Check.atoms] at hread
          rw [Check.mapSlots]
          have hinner := Check.comesBack hcheck h hread
          cases column with
          | none => exact Check.comesBack_standsFor hinner
          | some column =>
              refine Check.comesBack_within column hinner ?_
              rw [check.isCombination_mapSlots]
              exact (hcolumn' column rfl).2

theorem forall_comesBack {checks : List Check} (hwell : ∀ check ∈ checks, check.WellFormed)
    (h : ∀ check ∈ checks, check.IsLegible) (hread : ∀ atom ∈ checkAtoms checks, atom.IsRead) :
    ∀ check ∈ mapCheckSlots f checks, check.ComesBack := by
  cases checks with
  | nil => simp [mapCheckSlots]
  | cons check rest =>
      obtain ⟨hcheck, hrest⟩ := List.forall_mem_cons.1 hwell
      obtain ⟨hcheck', hrest'⟩ := List.forall_mem_cons.1 h
      rw [checkAtoms, List.forall_mem_append] at hread
      rw [mapCheckSlots]
      exact List.forall_mem_cons.2 ⟨Check.comesBack hcheck hcheck' hread.1,
        forall_comesBack hrest hrest' hread.2⟩

theorem forall_comesBack_otherwise {otherwise : Option (List Check)}
    (hwell : ∀ checks ∈ otherwise, ∀ check ∈ checks, check.WellFormed)
    (h : ∀ checks ∈ otherwise, ∀ check ∈ checks, check.IsLegible)
    (hread : ∀ atom ∈ otherwiseAtoms otherwise, atom.IsRead) :
    ∀ checks ∈ mapOtherwiseSlots f otherwise, ∀ check ∈ checks, check.ComesBack := by
  cases otherwise with
  | none => simp [mapOtherwiseSlots]
  | some checks =>
      rw [otherwiseAtoms] at hread
      rw [mapOtherwiseSlots]
      rintro _ ⟨⟩
      exact forall_comesBack (hwell checks rfl) (h checks rfl) hread

theorem forall_comesBack_cases {cases : List SwitchCase}
    (hwell : ∀ switchCase ∈ cases, switchCase.WellFormed)
    (h : ∀ switchCase ∈ cases, switchCase.IsLegible)
    (hread : ∀ atom ∈ caseAtoms cases, atom.IsRead) :
    ∀ switchCase ∈ mapCaseSlots f cases, switchCase.ComesBack := by
  match cases with
  | [] => simp [mapCaseSlots]
  | .mk condition clause :: rest =>
      obtain ⟨hcase, hrest⟩ := List.forall_mem_cons.1 hwell
      obtain ⟨hcase', hrest'⟩ := List.forall_mem_cons.1 h
      rw [caseAtoms, List.forall_mem_append, List.forall_mem_append] at hread
      rw [mapCaseSlots, SwitchCase.mapSlots]
      cases hcase with
      | mk hcondition hclause hchecks =>
          cases hcase' with
          | mk hcondition' hchecks' =>
              exact List.forall_mem_cons.2
                ⟨.mk (Check.comesBack hcondition hcondition' hread.1.1)
                  (forall_comesBack hchecks hchecks' hread.1.2),
                forall_comesBack_cases hrest hrest' hread.2⟩

end

end Renamed

/-- Checks that are written as the same phrases, and that take their slots off the same ones, cannot
be told apart, and they leave the same slots. -/
theorem alike_of_phrases_eq {checks₁ checks₂ : List Check}
    (h₁ : ∀ check ∈ checks₁, check.ComesBack) (h₂ : ∀ check ∈ checks₂, check.ComesBack)
    (hphrases : clausePhrases checks₁ = clausePhrases checks₂) {slots₁ slots₂ : List Nat}
    (hslots : checkSlots checks₁ ++ slots₁ = checkSlots checks₂ ++ slots₂) :
    Forall₂ Check.Alike checks₁ checks₂ ∧ slots₁ = slots₂ := by
  obtain ⟨read₁, halike₁, hread₁⟩ := readClause_clausePhrases h₁ slots₁
  obtain ⟨read₂, halike₂, hread₂⟩ := readClause_clausePhrases h₂ slots₂
  rw [hphrases, hslots, hread₂, Prod.mk.injEq] at hread₁
  obtain ⟨rfl, rfl⟩ := hread₁
  exact ⟨forall₂_alike_of_common halike₁ halike₂, rfl⟩

end Checks

end CsvSchema
