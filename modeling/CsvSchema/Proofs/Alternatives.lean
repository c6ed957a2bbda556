import CsvSchema.Proofs.Verdict
import CsvSchema.Storage.Memory

/-!
# Comparisons with alternatives

A value is compared with the texts of several operands in turn, until one of them is equal to it.
An operand without a text ends the comparison, so the ones behind it are not looked at:
`Session.validate_any_iff` says which lists of operands let a value pass, that operands with texts
do so exactly if one of the texts is equal to the value, and when the order of the operands matters.
-/

namespace CsvSchema

namespace Operand

variable (settings : FileSettings) (row : Row)

/-- An operand has a text for a row. -/
def HasText (operand : Operand) : Prop := ∃ text, operand.evaluate settings row = .ok text

/-- An operand has a text that is equal to a value, perhaps only without regard to case. -/
def Matches (fold : Bool) (value : String) (operand : Operand) : Prop :=
  ∃ text, operand.evaluate settings row = .ok text ∧
    Text.folded fold value = Text.folded fold text

instance (operand : Operand) : Decidable (operand.HasText settings row) :=
  match h : operand.evaluate settings row with
  | .ok text => .isTrue ⟨text, h⟩
  | .error _ => .isFalse fun ⟨_, htext⟩ => nomatch h.symm.trans htext

instance (fold : Bool) (value : String) (operand : Operand) :
    Decidable (operand.Matches settings row fold value) :=
  match h : operand.evaluate settings row with
  | .ok text => decidable_of_iff (Text.folded fold value = Text.folded fold text)
      ⟨fun hequal => ⟨text, h, hequal⟩, fun ⟨_, htext, hequal⟩ => by
        cases h.symm.trans htext
        exact hequal⟩
  | .error _ => .isFalse fun ⟨_, htext, _⟩ => nomatch h.symm.trans htext

end Operand

section Search

/-- An element behind elements of one kind either comes first, or is behind such elements in what
follows the first one. -/
theorem exists_behind_cons_iff {α : Type} {p q : α → Prop} {x : α} {xs : List α} :
    (∃ before y after, x :: xs = before ++ y :: after ∧ (∀ z ∈ before, p z) ∧ q y) ↔
      q x ∨ p x ∧ ∃ before y after, xs = before ++ y :: after ∧ (∀ z ∈ before, p z) ∧ q y := by
  constructor
  · rintro ⟨before, y, after, hsplit, hbefore, hy⟩
    cases before with
    | nil =>
        obtain ⟨rfl, -⟩ := List.cons.inj hsplit
        exact .inl hy
    | cons z before =>
        obtain ⟨rfl, hrest⟩ := List.cons.inj hsplit
        obtain ⟨hx, hbefore⟩ := List.forall_mem_cons.1 hbefore
        exact .inr ⟨hx, before, y, after, hrest, hbefore, hy⟩
  · rintro (hx | ⟨hx, before, y, after, rfl, hbefore, hy⟩)
    · exact ⟨[], x, xs, rfl, by simp, hx⟩
    · exact ⟨x :: before, y, after, rfl, List.forall_mem_cons.2 ⟨hx, hbefore⟩, hy⟩

variable {scope : Scope} {value : String} {operand : Operand} (rest : List Operand)

theorem findAny_cons_of_matches
    (h : operand.Matches scope.environment.settings scope.row scope.fold value) :
    findAny scope value (operand :: rest) = .passed := by
  obtain ⟨text, htext, hequal⟩ := h
  rw [findAny, Scope.operand, htext]
  exact if_pos (beq_iff_eq.2 hequal)

theorem findAny_cons_of_not_hasText
    (h : ¬operand.HasText scope.environment.settings scope.row) :
    findAny scope value (operand :: rest) ≠ .passed := by
  rw [findAny, Scope.operand]
  cases htext : operand.evaluate scope.environment.settings scope.row with
  | error e => simp
  | ok text => exact absurd ⟨text, htext⟩ h

theorem findAny_cons_of_differs
    (htext : operand.HasText scope.environment.settings scope.row)
    (h : ¬operand.Matches scope.environment.settings scope.row scope.fold value) :
    findAny scope value (operand :: rest) = findAny scope value rest := by
  obtain ⟨text, htext⟩ := htext
  rw [findAny, Scope.operand, htext]
  exact if_neg fun hequal => h ⟨text, htext, beq_iff_eq.1 hequal⟩

/-- A comparison passes if the text of an operand is equal to the value and all operands before it
have texts. -/
theorem findAny_eq_passed_iff (operands : List Operand) :
    findAny scope value operands = .passed ↔
      ∃ before operand after, operands = before ++ operand :: after ∧
        (∀ other ∈ before, other.HasText scope.environment.settings scope.row) ∧
        operand.Matches scope.environment.settings scope.row scope.fold value := by
  induction operands with
  | nil => simp [findAny]
  | cons operand rest ih =>
      rw [exists_behind_cons_iff, ← ih]
      by_cases hmatches : operand.Matches scope.environment.settings scope.row scope.fold value
      · exact iff_of_true (findAny_cons_of_matches rest hmatches) (.inl hmatches)
      by_cases htext : operand.HasText scope.environment.settings scope.row
      · rw [findAny_cons_of_differs rest htext hmatches]
        simp [hmatches, htext]
      -- Neither equal nor a text: the comparison ends here, whatever follows.
      · exact iff_of_false (findAny_cons_of_not_hasText rest htext) (by simp [hmatches, htext])

/-- Of operands that all have texts it is enough that one is equal to the value. -/
theorem findAny_eq_passed_iff_of_hasText {operands : List Operand}
    (h : ∀ operand ∈ operands, operand.HasText scope.environment.settings scope.row) :
    findAny scope value operands = .passed ↔ ∃ operand ∈ operands,
      operand.Matches scope.environment.settings scope.row scope.fold value := by
  rw [findAny_eq_passed_iff]
  constructor
  · rintro ⟨before, operand, after, rfl, -, hmatches⟩
    exact ⟨operand, by simp, hmatches⟩
  · rintro ⟨operand, hmem, hmatches⟩
    obtain ⟨before, after, rfl⟩ := List.append_of_mem hmem
    exact ⟨before, operand, after, rfl,
      fun other hother => h other (List.mem_append_left _ hother), hmatches⟩

/-- Any element of a list stands first in some order of the list. -/
theorem exists_perm_cons {α : Type} {x : α} {xs : List α} (h : x ∈ xs) :
    ∃ rest, xs.Perm (x :: rest) := by
  obtain ⟨before, after, rfl⟩ := List.append_of_mem h
  exact ⟨before ++ after, List.perm_middle⟩

/-- The order of the operands matters exactly if one of them is equal to the value and another one
has no text. -/
theorem findAny_perm_iff (operands : List Operand) :
    (∀ others, operands.Perm others →
        (findAny scope value operands = .passed ↔ findAny scope value others = .passed)) ↔
      (∀ operand ∈ operands,
          ¬operand.Matches scope.environment.settings scope.row scope.fold value) ∨
        ∀ operand ∈ operands, operand.HasText scope.environment.settings scope.row := by
  constructor
  · intro h
    by_cases hmatching : ∃ operand ∈ operands,
        operand.Matches scope.environment.settings scope.row scope.fold value
    · obtain ⟨matching, hmatching, hmatches⟩ := hmatching
      refine .inr fun failing hfailing => Classical.byContradiction fun htext => ?_
      -- Each of the two operands decides the comparison when it stands first.
      obtain ⟨rest, hrest⟩ := exists_perm_cons hmatching
      obtain ⟨rest', hrest'⟩ := exists_perm_cons hfailing
      have hpassed := (h _ hrest).2 (findAny_cons_of_matches rest hmatches)
      exact findAny_cons_of_not_hasText rest' htext ((h _ hrest').1 hpassed)
    · exact .inl fun operand hmem hmatches => hmatching ⟨operand, hmem, hmatches⟩
  · rintro (hnone | htexts) others hperm
    · have hfails : ∀ list : List Operand, list.Perm operands →
          findAny scope value list ≠ .passed := by
        intro list hlist hpassed
        obtain ⟨before, operand, after, rfl, -, hmatches⟩ := (findAny_eq_passed_iff list).1 hpassed
        exact hnone operand (hlist.mem_iff.1 (by simp)) hmatches
      exact iff_of_false (hfails operands (.refl _)) (hfails others hperm.symm)
    · have htexts' : ∀ operand ∈ others,
          operand.HasText scope.environment.settings scope.row :=
        fun operand hmem => htexts operand (hperm.mem_iff.2 hmem)
      rw [findAny_eq_passed_iff_of_hasText htexts, findAny_eq_passed_iff_of_hasText htexts']
      simp only [hperm.mem_iff]

end Search

namespace Session

variable (environment : Environment) (row : Row) (fold : Bool) (level : Option Severity)
  (value : String) (session : Session)

/-- Whether a value passes a comparison with some operands. -/
def acceptsAny (operands : List Operand) : Bool :=
  (validate environment row fold level (.atom (.any operands)) value session).1

/-- A value passes if one of the operands is equal to it and all operands before that one have
texts.  If all operands have texts, one that is equal to the value is enough.  The order of the
operands matters exactly if one is equal to the value and another one has no text. -/
theorem validate_any_iff (operands : List Operand) :
    let accepts := acceptsAny environment row fold level value session
    let HasText := Operand.HasText environment.settings row
    let IsEqual := Operand.Matches environment.settings row fold value
    (accepts operands = true ↔ ∃ before operand after, operands = before ++ operand :: after ∧
        (∀ other ∈ before, HasText other) ∧ IsEqual operand) ∧
      ((∀ operand ∈ operands, HasText operand) →
        (accepts operands = true ↔ ∃ operand ∈ operands, IsEqual operand)) ∧
      ((∀ others, operands.Perm others → accepts operands = accepts others) ↔
        (∀ operand ∈ operands, ¬IsEqual operand) ∨ ∀ operand ∈ operands, HasText operand) := by
  intro accepts HasText IsEqual
  have hfound : ∀ list, accepts list = true ↔
      findAny (session.scope environment row fold) value list = .passed := fun list =>
    validate_atom_iff environment row fold level (.any list) value session
  refine ⟨(hfound operands).trans (findAny_eq_passed_iff operands), fun htexts =>
    (hfound operands).trans (findAny_eq_passed_iff_of_hasText htexts), ?_⟩
  have hsame : ∀ list others, accepts list = accepts others ↔
      (findAny (session.scope environment row fold) value list = .passed ↔
        findAny (session.scope environment row fold) value others = .passed) := by
    intro list others
    rw [Bool.eq_iff_iff, hfound, hfound]
  simp only [hsame]
  exact findAny_perm_iff operands

/-- Of a decoded text and the field of a column, the second one is equal to the value but for case.
The value passes in both orders. -/
theorem validate_any_iff_of_fields :
    let environment : Environment := ⟨.initial, .initial, MemoryStorage.empty.toStorage⟩
    let row : Row := ⟨[("b", "Green")]⟩
    let operands : List Operand := [.uriDecode (.literal "%20red") none, .column "b"]
    let accepts := acceptsAny environment row true (some .error) "GREEN" (.start true)
    (∀ operand ∈ operands, operand.HasText environment.settings row) ∧
      (∃ operand ∈ operands, operand.Matches environment.settings row true "GREEN") ∧
      accepts operands = true ∧ accepts operands.reverse = true := by
  intro environment row operands accepts
  have htexts : ∀ operand ∈ operands, operand.HasText environment.settings row := by
    decide +kernel
  have hmatches : ∃ operand ∈ operands, operand.Matches environment.settings row true "GREEN" := by
    decide +kernel
  obtain ⟨-, haccepts, horder⟩ :=
    validate_any_iff environment row true (some .error) "GREEN" (.start true) operands
  have haccepted := (haccepts htexts).2 hmatches
  exact ⟨htexts, hmatches, haccepted,
    (horder.2 (.inr htexts) _ (List.reverse_perm operands).symm).symm.trans haccepted⟩

/-- The second operand is equal to the value, but the first one cannot be decoded.  In the other
order the value passes. -/
theorem not_validate_any_of_malformed :
    let environment : Environment := ⟨.initial, .initial, MemoryStorage.empty.toStorage⟩
    let row : Row := ⟨[("b", "%E9")]⟩
    let malformed : Operand := .uriDecode (.column "b") none
    let accepts := acceptsAny environment row false (some .error) "x" (.start true)
    (Operand.literal "x").Matches environment.settings row false "x" ∧
      accepts [malformed, .literal "x"] = false ∧ accepts [.literal "x", malformed] = true := by
  decide +kernel

end Session

end CsvSchema
