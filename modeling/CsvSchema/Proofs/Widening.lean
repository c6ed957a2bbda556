import CsvSchema.Proofs.Verdict
import CsvSchema.Proofs.Text.LowerCase
import CsvSchema.Storage.Memory

/-!
# Comparisons without regard to case

Where case is ignored, a value and the text that it is compared with are both lowered, each by
itself.  Equal texts stay equal.  A text that the value only begins with, ends with or contains can
be lowered otherwise than its place in the value, but only if it is not settled on the sides where
the value may go on; so a comparison that holds with regard to case holds without it for all values
exactly if the text is settled there, `Session.validate_folded_iff`.
-/

namespace CsvSchema

namespace Relation

/-- Whether a text is settled on the sides where a value in the relation to it may go on. -/
def isSettled (target : String) : Relation → Bool
  | is => true
  | isNot => true
  | contains => Text.settledBefore target.toList && Text.settledAfter target.toList
  | startsWith => Text.settledAfter target.toList
  | endsWith => Text.settledBefore target.toList

theorem forall_toList_iff {P : List Char → Prop} :
    (∀ value : String, P value.toList) ↔ ∀ s : List Char, P s := by
  refine ⟨fun h s => ?_, fun h value => h value.toList⟩
  rw [← String.toList_ofList (l := s)]
  exact h (String.ofList s)

/-- A relation other than difference is kept by lower case for all values exactly if the target is
settled. -/
theorem holds_lowered_iff {relation : Relation} (hrelation : relation ≠ .isNot) (target : String) :
    (∀ value, relation.holds value target = true →
        relation.holds (Text.lowered value) (Text.lowered target) = true) ↔
      relation.isSettled target = true := by
  cases relation with
  | is =>
      refine ⟨fun _ => rfl, fun _ value h => ?_⟩
      rw [holds, beq_iff_eq] at h ⊢
      rw [h]
  | isNot => exact absurd rfl hrelation
  | contains =>
      simp only [holds, isSettled, Text.isInfixOf_iff, Text.lowered, String.toList_ofList,
        Bool.and_eq_true]
      rw [forall_toList_iff (P := fun s => target.toList <:+: s → _ <:+: Text.lower s)]
      constructor
      -- A letter in front of the target, or behind it, shows whether its ends are settled.
      · intro h
        exact ⟨Text.settledBefore_of_isInfix (h _ (List.suffix_cons _ _).isInfix),
          Text.settledAfter_of_isInfix (h _ (List.prefix_append _ _).isInfix)⟩
      · rintro ⟨hbefore, hafter⟩ s hs
        exact Text.isInfix_lower hs hbefore hafter
  | startsWith =>
      simp only [holds, isSettled, List.isPrefixOf_iff_prefix, Text.lowered, String.toList_ofList]
      rw [forall_toList_iff (P := fun s => target.toList <+: s → _ <+: Text.lower s)]
      exact ⟨fun h => Text.settledAfter_of_isInfix (h _ (List.prefix_append _ _)).isInfix,
        fun hafter s hs => Text.isPrefix_lower hs hafter⟩
  | endsWith =>
      simp only [holds, isSettled, List.isSuffixOf_iff_suffix, Text.lowered, String.toList_ofList]
      rw [forall_toList_iff (P := fun s => target.toList <:+ s → _ <:+ Text.lower s)]
      exact ⟨fun h => Text.settledBefore_of_isInfix (h _ (List.suffix_cons _ _)).isInfix,
        fun hbefore s hs => Text.isSuffix_lower hs hbefore⟩

end Relation

theorem findComparison_eq_passed_iff {scope : Scope} {value : String} {relation : Relation}
    {operand : Operand} :
    findComparison scope value relation operand = .passed ↔
      ∃ target, scope.operand operand = .ok target ∧
        relation.holds (scope.comparable value) (scope.comparable target) = true := by
  unfold findComparison
  cases scope.operand operand with
  | error e => simp
  | ok target => simp

/-- A check that asks whether a value is like other texts. -/
def Atom.isLikeness : Atom → Bool
  | .compare relation _ => relation != .isNot
  | .any _ => true
  | _ => false

/-- If the texts that a check compares with matter by more than equality, they are settled. -/
def Atom.IsSettled (settings : FileSettings) (row : Row) : Atom → Prop
  | .compare relation operand =>
      ∀ target, operand.evaluate settings row = .ok target → relation.isSettled target = true
  | _ => True

namespace Session

variable {environment : Environment} {row : Row} {session : Session}

/-- Of several texts one that is equal to the value stays equal, and where there is no text, there
is none without regard to case either. -/
theorem findAny_folded {value : String} {operands : List Operand}
    (h : findAny (session.scope environment row false) value operands = .passed) :
    findAny (session.scope environment row true) value operands = .passed := by
  induction operands with
  | nil => cases h
  | cons operand rest ih =>
      have htext : ∀ fold, (session.scope environment row fold).operand operand =
          operand.evaluate environment.settings row := fun _ => rfl
      rw [findAny, htext] at h ⊢
      cases htarget : operand.evaluate environment.settings row with
      | error e =>
          rw [htarget] at h
          cases h
      | ok target =>
          rw [htarget] at h
          simp only at h ⊢
          split
          · rfl
          · rename_i hdiffers
            split at h
            · rename_i hequal
              have hlowered : Text.lowered value = Text.lowered target :=
                congrArg Text.lowered (beq_iff_eq.1 hequal)
              exact absurd (beq_iff_eq.2 hlowered) hdiffers
            · exact ih h

/-- Whether a check of likeness that holds with regard to case holds without it, for all values, is
decided by the texts that it compares with. -/
theorem validate_folded_iff {atom : Atom} (hatom : atom.isLikeness = true)
    (environment : Environment) (row : Row) (level : Option Severity) (session : Session) :
    (∀ value, (validate environment row false level (.atom atom) value session).1 = true →
        (validate environment row true level (.atom atom) value session).1 = true) ↔
      atom.IsSettled environment.settings row := by
  simp only [validate_atom_iff]
  cases atom with
  | compare relation operand =>
      simp only [Atom.isLikeness, bne_iff_ne] at hatom
      simp only [Atom.evaluate, Atom.IsSettled, Stateful.pure_apply, findComparison_eq_passed_iff]
      constructor
      · intro h target htarget
        refine (Relation.holds_lowered_iff hatom target).1 fun value hvalue => ?_
        obtain ⟨other, hother, hheld⟩ := h value ⟨target, htarget, hvalue⟩
        cases htarget.symm.trans hother
        exact hheld
      · rintro h value ⟨target, htarget, hvalue⟩
        exact ⟨target, htarget,
          (Relation.holds_lowered_iff hatom target).2 (h target htarget) value hvalue⟩
  | any operands => exact iff_of_true (fun value => findAny_folded) trivial
  | _ => cases hatom

/-- The sigmas in the text `ΣΑΣ-Α` have letters or a hyphen next to them where it matters, so it is
found in the value `ΑΣΑΣ-Α` without regard to case as it is with regard to it. -/
theorem validate_folded_of_inner_sigmas :
    let atom : Atom := .compare .contains (.literal "\u03A3\u0391\u03A3-\u0391")
    let environment : Environment := ⟨.initial, .initial, MemoryStorage.empty.toStorage⟩
    let value := "\u0391\u03A3\u0391\u03A3-\u0391"
    atom.isLikeness = true ∧ atom.IsSettled environment.settings ⟨[]⟩ ∧
      (validate environment ⟨[]⟩ false none (.atom atom) value (.start true)).1 = true ∧
      (validate environment ⟨[]⟩ true none (.atom atom) value (.start true)).1 = true := by
  intro atom environment value
  have hatom : atom.isLikeness = true := by decide
  have hsettled : atom.IsSettled environment.settings ⟨[]⟩ := by
    rintro target ⟨⟩
    decide +kernel
  have hvalue :
      (validate environment ⟨[]⟩ false none (.atom atom) value (.start true)).1 = true := by
    decide +kernel
  exact ⟨hatom, hsettled, hvalue,
    (validate_folded_iff hatom environment ⟨[]⟩ none (.start true)).2 hsettled value hvalue⟩

/-- The text `ΑΣ` begins the value `ΑΣΑ`, but the lower case of the one, which ends with a final
sigma, does not begin that of the other. -/
theorem not_validate_folded_of_final_sigma :
    let atom : Atom := .compare .startsWith (.literal "\u0391\u03A3")
    let environment : Environment := ⟨.initial, .initial, MemoryStorage.empty.toStorage⟩
    (validate environment ⟨[]⟩ false none (.atom atom) "\u0391\u03A3\u0391" (.start true)).1 = true ∧
      (validate environment ⟨[]⟩ true none (.atom atom) "\u0391\u03A3\u0391" (.start true)).1 =
        false := by
  decide +kernel

end Session

end CsvSchema
