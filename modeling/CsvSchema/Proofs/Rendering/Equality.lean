import CsvSchema.Compilation
import CsvSchema.Schema.Equality
import CsvSchema.Proofs.Atoms

/-!
# The texts of equal schemas

Equal schemas have the same text, and so the same fingerprint, as long as no bound of a range is
negative zero, `Schema.fingerprint_eq_of_equal`.  Negative zero is equal to zero but is written with
its sign, so it tells equal schemas apart, `Schema.text_ne_of_negative_zero`.
-/

namespace CsvSchema

/-- Negative zero. -/
def Decimal.Binary64.negativeZero : Binary64 := ⟨true, 0⟩

/-- A number other than negative zero is written as any equal number is. -/
theorem Decimal.Binary64.Equal.eq {x y : Binary64} (h : x.Equal y) (hx : x ≠ negativeZero)
    (hy : y ≠ negativeZero) : x = y := by
  obtain ⟨negative₁, units₁⟩ := x
  obtain ⟨negative₂, units₂⟩ := y
  have hunits : ∀ units : Nat, (⟨true, units⟩ : Binary64) ≠ negativeZero → 0 < units := by
    intro units hne
    refine Nat.pos_of_ne_zero fun hzero => hne ?_
    rw [hzero]
    rfl
  have hsame : units₁ = units₂ ∧ negative₁ = negative₂ := by
    unfold Equal toInt at h
    cases negative₁ <;> cases negative₂ <;>
      simp only [Bool.false_eq_true, if_false, if_true] at h
    · exact ⟨by omega, rfl⟩
    · have hpos := hunits units₂ hy
      omega
    · have hpos := hunits units₁ hx
      omega
    · exact ⟨by omega, rfl⟩
  rw [hsame.1, hsame.2]

/-- No bound of a range is negative zero. -/
def Atom.HasPlainZeros : Atom → Prop
  | .value (.range bounds) =>
      bounds.lower ≠ some .negativeZero ∧ bounds.upper ≠ some .negativeZero
  | _ => True

section Texts

theorem Decimal.Binary64.eq_of_rel {bound₁ bound₂ : Option Binary64}
    (h : Option.Rel Equal bound₁ bound₂) (h₁ : bound₁ ≠ some negativeZero)
    (h₂ : bound₂ ≠ some negativeZero) : bound₁ = bound₂ := by
  cases h with
  | none => rfl
  | some h => rw [h.eq (fun heq => h₁ (by rw [heq])) (fun heq => h₂ (by rw [heq]))]

theorem Atom.text_eq_of_equal {atom₁ atom₂ : Atom} (h : atom₁.Equal atom₂)
    (h₁ : atom₁.HasPlainZeros) (h₂ : atom₂.HasPlainZeros) : atom₁.text = atom₂.text := by
  unfold Atom.Equal at h
  split at h
  · rename_i test₁ test₂
    unfold ValueTest.Equal at h
    split at h
    · rename_i pattern₁ pattern₂
      simp only [Atom.text, ValueTest.text, h]
    · rename_i bounds₁ bounds₂
      obtain ⟨lower₁, upper₁⟩ := bounds₁
      obtain ⟨lower₂, upper₂⟩ := bounds₂
      cases Decimal.Binary64.eq_of_rel h.lower h₁.1 h₂.1
      cases Decimal.Binary64.eq_of_rel h.upper h₁.2 h₂.2
      rfl
    · rw [h]
  · rw [h]

mutual

/-- Equal checks have the same text. -/
theorem Check.text_eq_of_equal {check₁ check₂ : Check} (h : check₁.Equal check₂)
    (h₁ : ∀ atom ∈ check₁.atoms, atom.HasPlainZeros)
    (h₂ : ∀ atom ∈ check₂.atoms, atom.HasPlainZeros) : check₁.text = check₂.text := by
  unfold Check.Equal at h
  split at h
  · exact Atom.text_eq_of_equal h (h₁ _ (by simp [Check.atoms])) (h₂ _ (by simp [Check.atoms]))
  · simp only [Check.text, checkTexts_eq_of_equal h h₁ h₂]
  · simp only [Check.text, checkTexts_eq_of_equal h h₁ h₂]
  · simp only [Check.atoms, List.forall_mem_append] at h₁ h₂
    obtain ⟨hcondition, hclause, hotherwise⟩ := h
    simp only [Check.text, Check.text_eq_of_equal hcondition h₁.1.1 h₂.1.1,
      checkTexts_eq_of_equal hclause h₁.1.2 h₂.1.2,
      otherwiseTexts_eq_of_equal hotherwise h₁.2 h₂.2]
  · simp only [Check.atoms, List.forall_mem_append] at h₁ h₂
    obtain ⟨hcases, hotherwise⟩ := h
    simp only [Check.text, caseTexts_eq_of_equal hcases h₁.1 h₂.1,
      otherwiseTexts_eq_of_equal hotherwise h₁.2 h₂.2]
  · simp only [Check.text, checkTexts_eq_of_equal h h₁ h₂]
  · obtain ⟨rfl, hcheck⟩ := h
    rename_i column check₁ check₂
    have htext := Check.text_eq_of_equal hcheck h₁ h₂
    cases column with
    | none => simp only [Check.text, htext]
    | some column => simp only [Check.text, htext]
  · exact h.elim

theorem checkTexts_eq_of_equal {checks₁ checks₂ : List Check} (h : ChecksEqual checks₁ checks₂)
    (h₁ : ∀ atom ∈ checkAtoms checks₁, atom.HasPlainZeros)
    (h₂ : ∀ atom ∈ checkAtoms checks₂, atom.HasPlainZeros) :
    checkTexts checks₁ = checkTexts checks₂ := by
  unfold ChecksEqual at h
  split at h
  · rfl
  · simp only [checkAtoms, List.forall_mem_append] at h₁ h₂
    simp only [checkTexts, Check.text_eq_of_equal h.1 h₁.1 h₂.1,
      checkTexts_eq_of_equal h.2 h₁.2 h₂.2]
  · exact h.elim

theorem otherwiseTexts_eq_of_equal {otherwise₁ otherwise₂ : Option (List Check)}
    (h : OtherwiseEqual otherwise₁ otherwise₂)
    (h₁ : ∀ atom ∈ otherwiseAtoms otherwise₁, atom.HasPlainZeros)
    (h₂ : ∀ atom ∈ otherwiseAtoms otherwise₂, atom.HasPlainZeros) :
    otherwiseTexts otherwise₁ = otherwiseTexts otherwise₂ := by
  unfold OtherwiseEqual at h
  split at h
  · rfl
  · simp only [otherwiseTexts, checkTexts_eq_of_equal h h₁ h₂]
  · exact h.elim

theorem caseTexts_eq_of_equal {cases₁ cases₂ : List SwitchCase} (h : CasesEqual cases₁ cases₂)
    (h₁ : ∀ atom ∈ caseAtoms cases₁, atom.HasPlainZeros)
    (h₂ : ∀ atom ∈ caseAtoms cases₂, atom.HasPlainZeros) :
    caseTexts cases₁ = caseTexts cases₂ := by
  unfold CasesEqual at h
  split at h
  · rfl
  · simp only [caseAtoms, List.forall_mem_append] at h₁ h₂
    simp only [caseTexts, Check.text_eq_of_equal h.1.1 h₁.1.1 h₂.1.1,
      checkTexts_eq_of_equal h.1.2 h₁.1.2 h₂.1.2, caseTexts_eq_of_equal h.2 h₁.2 h₂.2]
  · exact h.elim

end

end Texts

namespace Schema

/-- Equal schemas have the same text and the same fingerprint, if no bound of a range in them is
negative zero. -/
theorem fingerprint_eq_of_equal {schema₁ schema₂ : Schema} (h : schema₁.Equal schema₂)
    (h₁ : ∀ atom ∈ columnAtoms schema₁.columns, atom.HasPlainZeros)
    (h₂ : ∀ atom ∈ columnAtoms schema₂.columns, atom.HasPlainZeros) :
    schema₁.text = schema₂.text ∧ schema₁.fingerprint = schema₂.fingerprint := by
  have hlines : schema₁.columns.map ColumnDefinition.line =
      schema₂.columns.map ColumnDefinition.line := by
    have hcolumns := h.columns
    generalize schema₁.columns = columns₁ at hcolumns h₁
    generalize schema₂.columns = columns₂ at hcolumns h₂
    induction hcolumns with
    | nil => rfl
    | cons hcolumn _ ih =>
        simp only [columnAtoms, List.flatMap_cons, List.forall_mem_append] at h₁ h₂ ih
        rw [List.map_cons, List.map_cons, ih h₁.2 h₂.2, ColumnDefinition.line,
          ColumnDefinition.line, hcolumn.name, hcolumn.settings,
          checkTexts_eq_of_equal hcolumn.checks h₁.1 h₂.1]
  have htext : schema₁.text = schema₂.text := by
    rw [text, text, lines, lines, h.version, h.settings, hlines]
  exact ⟨htext, by rw [fingerprint, fingerprint, htext]⟩

/-- The tree of a schema with one column, the values of which have a lower bound. -/
def treeOfLowerBound (bound : String) : Node :=
  ⟨"schema", [.node "prolog" [.token "version 1.0"] none,
    .node "body" [.node "column_definition" [.token "a:",
      .node "column_rule" [.node "range_expr" [.token bound, .token "*"] none] none] none] none],
    none⟩

/-- A schema with one column, the values of which are not below one of the two zeros. -/
def schemaOfZero (negative : Bool) : Schema :=
  ⟨.v10, .initial,
    [⟨"a", ⟨[.atom (.value (.range ⟨some ⟨negative, 0⟩, none⟩))], .initial⟩⟩], 0⟩

theorem equal_schemaOfZero (negative₁ negative₂ : Bool) :
    (schemaOfZero negative₁).Equal (schemaOfZero negative₂) := by
  have hzeros : Decimal.Binary64.Equal ⟨negative₁, 0⟩ ⟨negative₂, 0⟩ := by
    cases negative₁ <;> cases negative₂ <;> rfl
  have hchecks : ChecksEqual [.atom (.value (.range ⟨some ⟨negative₁, 0⟩, none⟩))]
      [.atom (.value (.range ⟨some ⟨negative₂, 0⟩, none⟩))] := by
    simp only [ChecksEqual, Check.Equal, and_true]
    exact ⟨.some hzeros, .none⟩
  exact ⟨rfl, rfl, .cons ⟨rfl, hchecks, rfl⟩ .nil, rfl⟩

/-- Two ways to write zero without a sign. -/
theorem fingerprint_eq_of_equal_of_zeros :
    ∃ schema₁ schema₂, ofTree (treeOfLowerBound "0") = .ok schema₁ ∧
      ofTree (treeOfLowerBound "0.0e5") = .ok schema₂ ∧ schema₁.Equal schema₂ ∧
      schema₁.text = schema₂.text ∧ schema₁.fingerprint = schema₂.fingerprint := by
  have h₁ : ofTree (treeOfLowerBound "0") = .ok (schemaOfZero false) := by
    with_unfolding_all rfl
  have h₂ : ofTree (treeOfLowerBound "0.0e5") = .ok (schemaOfZero false) := by
    with_unfolding_all rfl
  have hplain : ∀ atom ∈ columnAtoms (schemaOfZero false).columns, atom.HasPlainZeros := by
    intro atom hatom
    cases List.mem_singleton.1 hatom
    exact ⟨by decide, by decide⟩
  have hequal := equal_schemaOfZero false false
  exact ⟨_, _, h₁, h₂, hequal, fingerprint_eq_of_equal hequal hplain hplain⟩

/-- Two schemas that compare equal, one with negative zero for a lower bound and one with zero, have
different texts. -/
theorem text_ne_of_negative_zero :
    ∃ schema₁ schema₂, ofTree (treeOfLowerBound "-0") = .ok schema₁ ∧
      ofTree (treeOfLowerBound "0") = .ok schema₂ ∧ schema₁.Equal schema₂ ∧
      schema₁.text ≠ schema₂.text := by
  have h₁ : ofTree (treeOfLowerBound "-0") = .ok (schemaOfZero true) := by
    with_unfolding_all rfl
  have h₂ : ofTree (treeOfLowerBound "0") = .ok (schemaOfZero false) := by
    with_unfolding_all rfl
  refine ⟨_, _, h₁, h₂, equal_schemaOfZero true false, fun htext => ?_⟩
  have hlines : ∀ negative, (schemaOfZero negative).lines = ["version 1.0", Text.joinWith " "
      [nameText "a" ++ ":", (ValueTest.range ⟨some ⟨negative, 0⟩, none⟩).text]] :=
    fun negative => rfl
  have hsign : ∀ negative, (ValueTest.range ⟨some ⟨negative, 0⟩, none⟩).text.length =
      if negative then 12 else 11 := by
    decide
  have hlength := congrArg String.length htext
  -- The texts differ by the sign alone, so one of them is longer.
  simp only [text, hlines, String.join, List.map, List.foldl, Text.joinWith, String.length_append,
    hsign, if_true, Bool.false_eq_true, if_false] at hlength
  omega

end Schema

end CsvSchema
