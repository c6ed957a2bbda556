import CsvSchema.Proofs.Atoms
import CsvSchema.Proofs.Rendering.Atoms

/-!
# The phrases of checks

A check is written as one phrase or as several with blanks between them: the parts of `or` and `and`
stand beside each other, with a word between them.  Nothing shows where such a combination ends, so
the text of a check is legible only if combinations stand where they can be told apart,
`Check.IsLegible`.
-/

namespace CsvSchema

/-- The words that combine checks. -/
inductive Connective where
  | or
  | and

namespace Connective

/-- The word itself. -/
def word : Connective → String
  | or => "or"
  | and => "and"

/-- The check that a word makes of others. -/
def combine : Connective → List Check → Check
  | or => .or
  | and => .and

/-- The connective that a phrase is, if it is one. -/
def ofPhrase? : Phrase → Option Connective
  | .word text => if text = "or" then some or else if text = "and" then some and else none
  | _ => none

theorem ofPhrase?_word (connective : Connective) :
    ofPhrase? (.word connective.word) = some connective := by
  cases connective <;> rfl

end Connective

/-- Phrases whose first one stands for something in another column. -/
def withinFirst (column : String) : List Phrase → List Phrase
  | [] => []
  | phrase :: rest => .within column phrase :: rest

mutual

/-- The phrases of a check. -/
def Check.phrases : Check → List Phrase
  | .atom atom => [atom.phrase]
  | .or checks => joinedPhrases .or checks
  | .and checks => joinedPhrases .and checks
  | .parenthesized checks => [.call "" [clausePhrases checks]]
  | .conditional condition clause otherwise =>
      [.call "if" (condition.phrases :: clausePhrases clause :: otherwiseArguments otherwise)]
  | .switch cases otherwise =>
      [.call "switch" (caseArguments cases ++ otherwiseArguments otherwise)]
  | .single none check => check.phrases
  | .single (some column) check => withinFirst column check.phrases

/-- The phrases of some checks, one after the other. -/
def clausePhrases : List Check → List Phrase
  | [] => []
  | check :: rest => check.phrases ++ clausePhrases rest

/-- The phrases of some checks, with a connective between each two of them. -/
def joinedPhrases (connective : Connective) : List Check → List Phrase
  | [] => []
  | [check] => check.phrases
  | check :: next :: rest =>
      check.phrases ++ .word connective.word :: joinedPhrases connective (next :: rest)

/-- The argument of a clause, if it is there. -/
def otherwiseArguments : Option (List Check) → List (List Phrase)
  | none => []
  | some checks => [clausePhrases checks]

/-- The arguments of some cases. -/
def caseArguments : List SwitchCase → List (List Phrase)
  | [] => []
  | .mk condition clause :: rest =>
      [.call "" [condition.phrases, clausePhrases clause]] :: caseArguments rest

end

/-- Whether a check is written as several phrases. -/
def Check.isCombination : Check → Bool
  | .or _ => true
  | .and _ => true
  | .single none check => check.isCombination
  | _ => false

mutual

/-- The text of a check shows where its parts end.  Only the last part of a combination may be one
itself, and none stands behind the name of a column. -/
inductive Check.IsLegible : Check → Prop
  | atom {atom : Atom} (h : atom.IsLegible) : Check.IsLegible (.atom atom)
  | or {checks : List Check} (h : ∀ check ∈ checks, Check.IsLegible check)
      (hsimple : ∀ check ∈ checks.dropLast, check.isCombination = false) :
      Check.IsLegible (.or checks)
  | and {checks : List Check} (h : ∀ check ∈ checks, Check.IsLegible check)
      (hsimple : ∀ check ∈ checks.dropLast, check.isCombination = false) :
      Check.IsLegible (.and checks)
  | parenthesized {checks : List Check} (h : ∀ check ∈ checks, Check.IsLegible check) :
      Check.IsLegible (.parenthesized checks)
  | conditional {condition : Check} {clause : List Check} {otherwise : Option (List Check)}
      (hcondition : Check.IsLegible condition) (hclause : ∀ check ∈ clause, Check.IsLegible check)
      (hotherwise : ∀ checks ∈ otherwise, ∀ check ∈ checks, Check.IsLegible check) :
      Check.IsLegible (.conditional condition clause otherwise)
  | switch {cases : List SwitchCase} {otherwise : Option (List Check)}
      (hcases : ∀ switchCase ∈ cases, SwitchCase.IsLegible switchCase)
      (hotherwise : ∀ checks ∈ otherwise, ∀ check ∈ checks, Check.IsLegible check) :
      Check.IsLegible (.switch cases otherwise)
  | single {column : Option String} {check : Check}
      (hcolumn : ∀ name ∈ column, (∀ c ∈ name.toList, isNameChar c = true) ∧
        check.isCombination = false)
      (h : Check.IsLegible check) : Check.IsLegible (.single column check)

/-- The text of a case shows where its parts end. -/
inductive SwitchCase.IsLegible : SwitchCase → Prop
  | mk {condition : Check} {clause : List Check} (hcondition : Check.IsLegible condition)
      (hclause : ∀ check ∈ clause, Check.IsLegible check) :
      SwitchCase.IsLegible (.mk condition clause)

end

section Texts

theorem joinWith_append (separator : String) {pieces₁ pieces₂ : List String} (h₁ : pieces₁ ≠ [])
    (h₂ : pieces₂ ≠ []) :
    Text.joinWith separator (pieces₁ ++ pieces₂) =
      Text.joinWith separator pieces₁ ++ separator ++ Text.joinWith separator pieces₂ := by
  obtain ⟨next, rest, rfl⟩ := List.exists_cons_of_ne_nil h₂
  induction pieces₁ with
  | nil => exact absurd rfl h₁
  | cons piece more ih =>
      cases more with
      | nil => simp only [List.singleton_append, Text.joinWith]
      | cons piece' more =>
          have hmore := ih (List.cons_ne_nil _ _)
          rw [List.cons_append] at hmore
          rw [List.cons_append, List.cons_append, Text.joinWith, hmore, Text.joinWith]
          simp only [String.append_assoc]

theorem phrasesText_append {phrases₁ phrases₂ : List Phrase} (h₁ : phrases₁ ≠ [])
    (h₂ : phrases₂ ≠ []) :
    phrasesText (phrases₁ ++ phrases₂) = phrasesText phrases₁ ++ " " ++ phrasesText phrases₂ := by
  simp only [phrasesText, phraseTexts_eq_map, List.map_append]
  exact joinWith_append " " (by simpa using h₁) (by simpa using h₂)

theorem phrasesText_cons (phrase : Phrase) {rest : List Phrase} (h : rest ≠ []) :
    phrasesText (phrase :: rest) = phrase.text ++ " " ++ phrasesText rest := by
  rw [← List.singleton_append, phrasesText_append (List.cons_ne_nil _ _) h, phrasesText_singleton]

theorem withinFirst_ne_nil (column : String) {phrases : List Phrase} (h : phrases ≠ []) :
    withinFirst column phrases ≠ [] := by
  obtain ⟨phrase, rest, rfl⟩ := List.exists_cons_of_ne_nil h
  exact List.cons_ne_nil _ _

theorem phrasesText_withinFirst (column : String) {phrases : List Phrase} (h : phrases ≠ []) :
    phrasesText (withinFirst column phrases) = "$" ++ column ++ "/" ++ phrasesText phrases := by
  obtain ⟨phrase, rest, rfl⟩ := List.exists_cons_of_ne_nil h
  cases rest with
  | nil => rfl
  | cons next rest =>
      simp only [withinFirst, phrasesText, phraseTexts, Text.joinWith, Phrase.text,
        String.append_assoc]

theorem clausePhrases_ne_nil {checks : List Check} (hne : checks ≠ [])
    (h : ∀ check ∈ checks, check.phrases ≠ []) : clausePhrases checks ≠ [] := by
  obtain ⟨check, rest, rfl⟩ := List.exists_cons_of_ne_nil hne
  rw [clausePhrases]
  exact List.append_ne_nil_of_left_ne_nil (h check List.mem_cons_self) _

theorem joinedPhrases_ne_nil (connective : Connective) {checks : List Check} (hne : checks ≠ [])
    (h : ∀ check ∈ checks, check.phrases ≠ []) : joinedPhrases connective checks ≠ [] := by
  obtain ⟨check, rest, rfl⟩ := List.exists_cons_of_ne_nil hne
  have hcheck := h check List.mem_cons_self
  cases rest with
  | nil =>
      rw [joinedPhrases]
      exact hcheck
  | cons next rest =>
      rw [joinedPhrases]
      exact List.append_ne_nil_of_left_ne_nil hcheck _

theorem caseArguments_ne_nil {cases : List SwitchCase} (hne : cases ≠ []) :
    caseArguments cases ≠ [] := by
  match cases with
  | [] => exact absurd rfl hne
  | .mk condition clause :: rest => simp [caseArguments]

/-- A well-formed check is written as at least one phrase. -/
theorem Check.phrases_ne_nil {check : Check} (h : check.WellFormed) : check.phrases ≠ [] := by
  cases h with
  | atom _ => simp [Check.phrases]
  | or hlength hchecks =>
      rw [Check.phrases]
      exact joinedPhrases_ne_nil .or (List.length_pos_iff.1 (by omega)) fun check hmem =>
        phrases_ne_nil (hchecks check hmem)
  | and hlength hchecks =>
      rw [Check.phrases]
      exact joinedPhrases_ne_nil .and (List.length_pos_iff.1 (by omega)) fun check hmem =>
        phrases_ne_nil (hchecks check hmem)
  | parenthesized _ _ => simp [Check.phrases]
  | conditional _ _ _ _ _ => simp [Check.phrases]
  | switch _ _ _ _ => simp [Check.phrases]
  | @single column check _ hcheck =>
      cases column with
      | none =>
          rw [Check.phrases]
          exact phrases_ne_nil hcheck
      | some column =>
          rw [Check.phrases]
          exact withinFirst_ne_nil column (phrases_ne_nil hcheck)
termination_by sizeOf check

mutual

/-- The text of a well-formed check is that of its phrases. -/
theorem Check.text_eq {check : Check} (h : check.WellFormed) :
    check.text = phrasesText check.phrases := by
  cases h with
  | atom hatom =>
      rw [Check.text, Check.phrases, phrasesText_singleton, Atom.text_eq hatom]
  | or hlength hchecks =>
      rw [Check.text, Check.phrases]
      exact joinWith_checkTexts_eq .or hchecks
  | and hlength hchecks =>
      rw [Check.text, Check.phrases]
      exact joinWith_checkTexts_eq .and hchecks
  | parenthesized hne hchecks =>
      rw [Check.text, Check.phrases, phrasesText_singleton, Phrase.text, clauseText_eq hchecks]
      rfl
  | conditional hcondition hclause hchecks hotherwise hothers =>
      rw [Check.text, Check.phrases, phrasesText_singleton, Phrase.text, argumentTexts_cons,
        argumentTexts_cons, Check.text_eq hcondition, clauseText_eq hchecks,
        otherwiseTexts_eq hothers]
      rfl
  | switch hne hcases hotherwise hothers =>
      rw [Check.text, Check.phrases, phrasesText_singleton, Phrase.text, caseTexts_eq hcases,
        otherwiseTexts_eq hothers, argumentTexts_eq_map, argumentTexts_eq_map,
        argumentTexts_eq_map, List.map_append]
  | @single column check hcolumn hcheck =>
      cases column with
      | none =>
          rw [Check.text, Check.phrases]
          exact Check.text_eq hcheck
      | some column =>
          rw [Check.text, Check.phrases,
            phrasesText_withinFirst column (Check.phrases_ne_nil hcheck), Check.text_eq hcheck]

theorem clauseText_eq {checks : List Check} (h : ∀ check ∈ checks, check.WellFormed) :
    Text.joinWith " " (checkTexts checks) = phrasesText (clausePhrases checks) := by
  match checks with
  | [] => rfl
  | [check] =>
      rw [checkTexts, checkTexts, Text.joinWith, clausePhrases, clausePhrases, List.append_nil]
      exact Check.text_eq (h check List.mem_cons_self)
  | check :: next :: rest =>
      obtain ⟨hcheck, hrest⟩ := List.forall_mem_cons.1 h
      have htail := clauseText_eq hrest
      have hne : clausePhrases (next :: rest) ≠ [] :=
        clausePhrases_ne_nil (List.cons_ne_nil _ _) fun check hmem =>
          Check.phrases_ne_nil (hrest check hmem)
      rw [checkTexts] at htail
      rw [checkTexts, checkTexts, Text.joinWith, htail, Check.text_eq hcheck,
        ← phrasesText_append (Check.phrases_ne_nil hcheck) hne]
      rfl

theorem joinWith_checkTexts_eq (connective : Connective) {checks : List Check}
    (h : ∀ check ∈ checks, check.WellFormed) :
    Text.joinWith (" " ++ connective.word ++ " ") (checkTexts checks) =
      phrasesText (joinedPhrases connective checks) := by
  match checks with
  | [] => rfl
  | [check] =>
      rw [checkTexts, checkTexts, Text.joinWith, joinedPhrases]
      exact Check.text_eq (h check List.mem_cons_self)
  | check :: next :: rest =>
      obtain ⟨hcheck, hrest⟩ := List.forall_mem_cons.1 h
      have htail := joinWith_checkTexts_eq connective hrest
      have hne : joinedPhrases connective (next :: rest) ≠ [] :=
        joinedPhrases_ne_nil connective (List.cons_ne_nil _ _) fun check hmem =>
          Check.phrases_ne_nil (hrest check hmem)
      rw [checkTexts] at htail
      rw [checkTexts, checkTexts, Text.joinWith, htail, joinedPhrases,
        phrasesText_append (Check.phrases_ne_nil hcheck) (List.cons_ne_nil _ _),
        phrasesText_cons _ hne, Check.text_eq hcheck]
      simp only [Phrase.text, String.append_assoc]

theorem otherwiseTexts_eq {otherwise : Option (List Check)}
    (h : ∀ checks ∈ otherwise, ∀ check ∈ checks, check.WellFormed) :
    otherwiseTexts otherwise = argumentTexts (otherwiseArguments otherwise) := by
  cases otherwise with
  | none => rfl
  | some checks =>
      rw [otherwiseTexts, otherwiseArguments, argumentTexts_cons, clauseText_eq (h checks rfl)]
      rfl

theorem caseTexts_eq {cases : List SwitchCase}
    (h : ∀ switchCase ∈ cases, switchCase.WellFormed) :
    caseTexts cases = argumentTexts (caseArguments cases) := by
  match cases with
  | [] => rfl
  | .mk condition clause :: rest =>
      obtain ⟨hcase, hrest⟩ := List.forall_mem_cons.1 h
      cases hcase with
      | mk hcondition hclause hchecks =>
          rw [caseTexts, caseArguments, argumentTexts_cons, phrasesText_singleton, Phrase.text,
            argumentTexts_cons, argumentTexts_cons, Check.text_eq hcondition,
            clauseText_eq hchecks, caseTexts_eq hrest]
          simp only [Atom.call, argumentTexts, Text.joinWith, String.append_assoc,
            String.empty_append]

end

end Texts

section Slots

variable (f : Nat → Nat)

theorem Atom.phrase_mapSlots (atom : Atom) : (atom.mapSlots f).phrase = atom.phrase := by
  cases atom <;> rfl

mutual

/-- No phrase shows a slot. -/
theorem Check.phrases_mapSlots (check : Check) : (check.mapSlots f).phrases = check.phrases := by
  cases check with
  | atom atom => simp only [Check.mapSlots, Check.phrases, atom.phrase_mapSlots]
  | or checks => simp only [Check.mapSlots, Check.phrases, joinedPhrases_mapCheckSlots .or checks]
  | and checks => simp only [Check.mapSlots, Check.phrases, joinedPhrases_mapCheckSlots .and checks]
  | parenthesized checks =>
      simp only [Check.mapSlots, Check.phrases, clausePhrases_mapCheckSlots checks]
  | conditional condition clause otherwise =>
      simp only [Check.mapSlots, Check.phrases, condition.phrases_mapSlots,
        clausePhrases_mapCheckSlots clause, otherwiseArguments_mapOtherwiseSlots otherwise]
  | switch cases otherwise =>
      simp only [Check.mapSlots, Check.phrases, caseArguments_mapCaseSlots cases,
        otherwiseArguments_mapOtherwiseSlots otherwise]
  | single column check =>
      cases column with
      | none => simp only [Check.mapSlots, Check.phrases, check.phrases_mapSlots]
      | some column => simp only [Check.mapSlots, Check.phrases, check.phrases_mapSlots]

theorem clausePhrases_mapCheckSlots (checks : List Check) :
    clausePhrases (mapCheckSlots f checks) = clausePhrases checks := by
  cases checks with
  | nil => rfl
  | cons check rest =>
      simp only [mapCheckSlots, clausePhrases, check.phrases_mapSlots,
        clausePhrases_mapCheckSlots rest]

theorem joinedPhrases_mapCheckSlots (connective : Connective) (checks : List Check) :
    joinedPhrases connective (mapCheckSlots f checks) = joinedPhrases connective checks := by
  match checks with
  | [] => rfl
  | [check] => simp only [mapCheckSlots, joinedPhrases, check.phrases_mapSlots]
  | check :: next :: rest =>
      have hrest := joinedPhrases_mapCheckSlots connective (next :: rest)
      simp only [mapCheckSlots, joinedPhrases, check.phrases_mapSlots] at hrest ⊢
      rw [hrest]

theorem otherwiseArguments_mapOtherwiseSlots (otherwise : Option (List Check)) :
    otherwiseArguments (mapOtherwiseSlots f otherwise) = otherwiseArguments otherwise := by
  cases otherwise with
  | none => rfl
  | some checks =>
      simp only [mapOtherwiseSlots, otherwiseArguments, clausePhrases_mapCheckSlots checks]

theorem caseArguments_mapCaseSlots (cases : List SwitchCase) :
    caseArguments (mapCaseSlots f cases) = caseArguments cases := by
  match cases with
  | [] => rfl
  | .mk condition clause :: rest =>
      simp only [mapCaseSlots, SwitchCase.mapSlots, caseArguments, condition.phrases_mapSlots,
        clausePhrases_mapCheckSlots clause, caseArguments_mapCaseSlots rest]

end

theorem Check.isCombination_mapSlots (check : Check) :
    (check.mapSlots f).isCombination = check.isCombination := by
  match check with
  | .single none check =>
      rw [Check.mapSlots, Check.isCombination, Check.isCombination]
      exact isCombination_mapSlots check
  | .single (some column) check => simp [Check.mapSlots, Check.isCombination]
  | .atom _ | .or _ | .and _ | .parenthesized _ | .conditional _ _ _ | .switch _ _ =>
      simp [Check.mapSlots, Check.isCombination]

end Slots

section Reading

/-- A phrase that can be read back from its text, also if others stand behind it. -/
structure Phrase.IsReadableBeside (phrase : Phrase) : Prop where
  readable : phrase.IsReadable
  not_reference : phrase.isReference = false

theorem areReadable_of_beside {phrases : List Phrase} (hne : phrases ≠ [])
    (h : ∀ phrase ∈ phrases, phrase.IsReadableBeside) : AreReadable phrases where
  ne_nil := hne
  readable phrase hmem := (h phrase hmem).readable
  alone phrase hmem hreference := by
    rw [(h phrase hmem).not_reference] at hreference
    cases hreference

theorem isReadableBeside_connective (connective : Connective) :
    (Phrase.word connective.word).IsReadableBeside where
  readable := by cases connective <;> exact .word (by decide) (isWordChar_of_all (by decide))
  not_reference := rfl

theorem isReadableBeside_call {keyword : String} {arguments : List (List Phrase)}
    (hkeyword : ∀ c ∈ keyword.toList, isWordChar c = true) (hsome : arguments ≠ [])
    (h : ∀ argument ∈ arguments, AreReadable argument) :
    (Phrase.call keyword arguments).IsReadableBeside :=
  ⟨isReadable_call hkeyword hsome h, rfl⟩

theorem isReadableBeside_of_mem_withinFirst {column : String} {phrases : List Phrase}
    (hcolumn : ∀ c ∈ column.toList, isNameChar c = true)
    (h : ∀ phrase ∈ phrases, phrase.IsReadableBeside) :
    ∀ phrase ∈ withinFirst column phrases, phrase.IsReadableBeside := by
  cases phrases with
  | nil => simp [withinFirst]
  | cons first rest =>
      obtain ⟨hfirst, hrest⟩ := List.forall_mem_cons.1 h
      have hwithin := Phrase.IsReadable.within hcolumn hfirst.readable hfirst.not_reference
      exact List.forall_mem_cons.2 ⟨⟨hwithin, rfl⟩, hrest⟩

theorem Atom.isReadableBeside_phrase {atom : Atom} (hwell : atom.WellFormed)
    (h : atom.IsLegible) : atom.phrase.IsReadableBeside where
  readable := atom.isReadable_phrase hwell h
  not_reference := by
    have hkeyword := atom.keyword?_phrase
    cases hphrase : atom.phrase with
    | reference column =>
        rw [hphrase] at hkeyword
        cases hkeyword
    | _ => rfl

mutual

/-- The phrases of a well-formed check with a legible text can be read back from it. -/
theorem Check.isReadableBeside_phrases {check : Check} (hwell : check.WellFormed)
    (h : check.IsLegible) : ∀ phrase ∈ check.phrases, phrase.IsReadableBeside := by
  cases hwell with
  | atom hatom =>
      cases h with
      | atom h =>
          rw [Check.phrases, List.forall_mem_singleton]
          exact Atom.isReadableBeside_phrase hatom h
  | or hlength hchecks =>
      cases h with
      | or h hsimple =>
          rw [Check.phrases]
          exact isReadableBeside_joinedPhrases .or hchecks h
  | and hlength hchecks =>
      cases h with
      | and h hsimple =>
          rw [Check.phrases]
          exact isReadableBeside_joinedPhrases .and hchecks h
  | parenthesized hne hchecks =>
      cases h with
      | parenthesized h =>
          rw [Check.phrases, List.forall_mem_singleton]
          refine isReadableBeside_call (isWordChar_of_all (by decide)) (List.cons_ne_nil _ _) ?_
          exact List.forall_mem_singleton.2 (areReadable_clausePhrases hne hchecks h)
  | conditional hcondition hclause hchecks hotherwise hothers =>
      cases h with
      | conditional hcondition' hchecks' hothers' =>
          rw [Check.phrases, List.forall_mem_singleton]
          refine isReadableBeside_call (isWordChar_of_all (by decide)) (List.cons_ne_nil _ _) ?_
          rw [List.forall_mem_cons, List.forall_mem_cons]
          exact ⟨Check.areReadable_phrases hcondition hcondition',
            areReadable_clausePhrases hclause hchecks hchecks',
            areReadable_otherwiseArguments hotherwise hothers hothers'⟩
  | switch hne hcases hotherwise hothers =>
      cases h with
      | switch hcases' hothers' =>
          rw [Check.phrases, List.forall_mem_singleton]
          refine isReadableBeside_call (isWordChar_of_all (by decide)) ?_ ?_
          · exact List.append_ne_nil_of_left_ne_nil (caseArguments_ne_nil hne) _
          · exact List.forall_mem_append.2 ⟨areReadable_caseArguments hcases hcases',
              areReadable_otherwiseArguments hotherwise hothers hothers'⟩
  | @single column check hcolumn hcheck =>
      cases h with
      | single hcolumn' h =>
          have hphrases := Check.isReadableBeside_phrases hcheck h
          cases column with
          | none =>
              rw [Check.phrases]
              exact hphrases
          | some column =>
              rw [Check.phrases]
              exact isReadableBeside_of_mem_withinFirst (hcolumn' column rfl).1 hphrases

theorem Check.areReadable_phrases {check : Check} (hwell : check.WellFormed)
    (h : check.IsLegible) : AreReadable check.phrases :=
  areReadable_of_beside (Check.phrases_ne_nil hwell) (Check.isReadableBeside_phrases hwell h)

theorem isReadableBeside_clausePhrases {checks : List Check}
    (hwell : ∀ check ∈ checks, check.WellFormed) (h : ∀ check ∈ checks, check.IsLegible) :
    ∀ phrase ∈ clausePhrases checks, phrase.IsReadableBeside := by
  cases checks with
  | nil => simp [clausePhrases]
  | cons check rest =>
      obtain ⟨hcheck, hrest⟩ := List.forall_mem_cons.1 hwell
      obtain ⟨hcheck', hrest'⟩ := List.forall_mem_cons.1 h
      rw [clausePhrases]
      exact List.forall_mem_append.2 ⟨Check.isReadableBeside_phrases hcheck hcheck',
        isReadableBeside_clausePhrases hrest hrest'⟩

theorem areReadable_clausePhrases {checks : List Check} (hne : checks ≠ [])
    (hwell : ∀ check ∈ checks, check.WellFormed) (h : ∀ check ∈ checks, check.IsLegible) :
    AreReadable (clausePhrases checks) :=
  areReadable_of_beside
    (clausePhrases_ne_nil hne fun check hmem => Check.phrases_ne_nil (hwell check hmem))
    (isReadableBeside_clausePhrases hwell h)

theorem isReadableBeside_joinedPhrases (connective : Connective) {checks : List Check}
    (hwell : ∀ check ∈ checks, check.WellFormed) (h : ∀ check ∈ checks, check.IsLegible) :
    ∀ phrase ∈ joinedPhrases connective checks, phrase.IsReadableBeside := by
  match checks with
  | [] => simp [joinedPhrases]
  | [check] =>
      rw [joinedPhrases]
      exact Check.isReadableBeside_phrases (hwell check List.mem_cons_self)
        (h check List.mem_cons_self)
  | check :: next :: rest =>
      obtain ⟨hcheck, hrest⟩ := List.forall_mem_cons.1 hwell
      obtain ⟨hcheck', hrest'⟩ := List.forall_mem_cons.1 h
      rw [joinedPhrases]
      exact List.forall_mem_append.2 ⟨Check.isReadableBeside_phrases hcheck hcheck',
        List.forall_mem_cons.2 ⟨isReadableBeside_connective connective,
          isReadableBeside_joinedPhrases connective hrest hrest'⟩⟩

theorem areReadable_otherwiseArguments {otherwise : Option (List Check)}
    (hne : ∀ checks ∈ otherwise, checks ≠ [])
    (hwell : ∀ checks ∈ otherwise, ∀ check ∈ checks, check.WellFormed)
    (h : ∀ checks ∈ otherwise, ∀ check ∈ checks, check.IsLegible) :
    ∀ argument ∈ otherwiseArguments otherwise, AreReadable argument := by
  cases otherwise with
  | none => simp [otherwiseArguments]
  | some checks =>
      rw [otherwiseArguments, List.forall_mem_singleton]
      exact areReadable_clausePhrases (hne checks rfl) (hwell checks rfl) (h checks rfl)

theorem areReadable_caseArguments {cases : List SwitchCase}
    (hwell : ∀ switchCase ∈ cases, switchCase.WellFormed)
    (h : ∀ switchCase ∈ cases, switchCase.IsLegible) :
    ∀ argument ∈ caseArguments cases, AreReadable argument := by
  match cases with
  | [] => simp [caseArguments]
  | .mk condition clause :: rest =>
      obtain ⟨hcase, hrest⟩ := List.forall_mem_cons.1 hwell
      obtain ⟨hcase', hrest'⟩ := List.forall_mem_cons.1 h
      cases hcase with
      | mk hcondition hclause hchecks =>
          cases hcase' with
          | mk hcondition' hchecks' =>
              rw [caseArguments, List.forall_mem_cons]
              refine ⟨.singleton ?_, areReadable_caseArguments hrest hrest'⟩
              refine isReadable_call (isWordChar_of_all (by decide)) (List.cons_ne_nil _ _) ?_
              rw [List.forall_mem_cons, List.forall_mem_singleton]
              exact ⟨Check.areReadable_phrases hcondition hcondition',
                areReadable_clausePhrases hclause hchecks hchecks'⟩

end

end Reading

end CsvSchema
