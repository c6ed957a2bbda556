import CsvSchema.Proofs.WellFormed.Arguments
import CsvSchema.Proofs.Slots.Compounds

/-!
# Well-formed operands and checks

What is made of well-formed parts is well formed.  Most of it is passed on from the parts; what is
new in a check is the number of its parts, and the bounds and names that are read for it.
-/

namespace CsvSchema

open Fallible

variable {parts : List Part} (hparts : ∀ p ∈ parts, p.WellFormed)

section Operands

include hparts

theorem wellFormed_of_mapM_asOperand {operands : List Operand}
    (h : parts.mapM Part.asOperand = .ok operands) : ∀ x ∈ operands, x.WellFormed :=
  forall_of_mapM_eq_ok (fun p hp _ hx => Part.wellFormed_of_asOperand hx (hparts p hp)) h

theorem ReadsOptional.wellFormed {operand : Option Operand} (h : ReadsOptional parts operand) :
    ∀ x ∈ operand, x.WellFormed := by
  cases h with
  | omitted => simp
  | given h => simpa using Part.wellFormed_of_asOperand h (hparts _ (by simp))

theorem ReadsOperand.wellFormed {kind : NodeKind} {operand : Operand}
    (h : ReadsOperand kind parts operand) : operand.WellFormed := by
  cases h with
  | literal h => exact .literal _
  | provided h hinner => exact .provided (Part.wellFormed_of_asOperand h (hparts _ (by simp)))
  | reference hne => exact .column hne
  | concat hne h => exact .concat hne (wellFormed_of_mapM_asOperand hparts h)
  | noExtension h => exact .noExtension (Part.wellFormed_of_asOperand h (hparts _ (by simp)))
  | uriDecode hvalue hencoding =>
      obtain ⟨hpart, hrest⟩ := List.forall_mem_cons.1 hparts
      exact .uriDecode (Part.wellFormed_of_asOperand hvalue hpart) (hencoding.wellFormed hrest)
  | file hfolder hfile =>
      obtain ⟨hbefore, hpart⟩ := List.forall_mem_append.1 hparts
      exact .file (hfolder.wellFormed hbefore)
        (Part.wellFormed_of_asOperand hfile (List.forall_mem_singleton.1 hpart))

end Operands

section Tests

theorem Decimal.Binary64.lt_of_nearestDecimal? {significand units : Nat} {exponent : Int}
    (h : nearestDecimal? significand exponent = some units) : units < infinityUnits := by
  have hpos : 0 < infinityUnits := by
    unfold infinityUnits
    generalize 1024 + unitsInOne = exponent
    exact Nat.two_pow_pos exponent
  unfold nearestDecimal? at h
  simp only at h
  split at h
  · rw [← Option.some.inj h]
    exact hpos
  · rw [Option.ite_none_left_eq_some, Option.ite_none_right_eq_some] at h
    obtain ⟨-, hlt, heq⟩ := h
    rw [← Option.some.inj heq]
    exact hlt

/-- A number that is read is finite. -/
theorem Decimal.isFinite_of_readBinary64? {text : List Char} {x : Binary64}
    (h : readBinary64? text = some x) : x.IsFinite := by
  simp only [readBinary64?, Option.ite_none_left_eq_some, Option.bind_eq_some_iff,
    Option.map_eq_some_iff] at h
  obtain ⟨-, exponent, -, units, hunits, rfl⟩ := h
  exact Binary64.lt_of_nearestDecimal? hunits

theorem ReadsBounds.ordered {α : Type} [LE α] [DecidableLE α] {form : BoundForm α}
    {bounds : Bounds α} (h : ReadsBounds form parts bounds) : bounds.Ordered := by
  cases h with
  | omitted => exact Bounds.ordered_unbounded
  | given h => exact (ordered_of_readBounds h).1

/-- The test of a node without arguments has none that could be wrong. -/
def NodeKind.WellFormed : NodeKind → Prop
  | plain test => test.WellFormed
  | _ => True

theorem ReadsTest.wellFormed {kind : NodeKind} {test : ValueTest} (hkind : kind.WellFormed)
    (h : ReadsTest kind parts test) : test.WellFormed := by
  cases h with
  | plain test => exact hkind
  | regex h | exactly h => trivial
  | range h =>
      obtain ⟨hordered, hread⟩ := ordered_of_readBounds h
      exact ⟨hordered, hread.mono fun x ⟨text, hx⟩ => Decimal.isFinite_of_readBinary64? hx⟩
  | between h => exact (ordered_of_readBounds h).1
  | dateTime h | zonedDateTime h | date h | time h | ukDate h => exact h.ordered

end Tests

include hparts in
/-- An atomic check is well formed with the operands and the names that it is read from. -/
theorem ReadsAtom.wellFormed {slot : Nat} {kind : NodeKind} {atom : Atom}
    (hkind : kind.WellFormed) (h : ReadsAtom slot kind parts atom) : atom.WellFormed := by
  cases h with
  | value h => exact h.wellFormed hkind
  | compare relation h => exact Part.wellFormed_of_asOperand h (hparts _ (by simp))
  | any hne h => exact ⟨hne, wellFormed_of_mapM_asOperand hparts h⟩
  | composedDate hyear hmonth hday hbounds =>
      simp only [List.forall_mem_cons] at hparts
      exact ⟨Part.wellFormed_of_asOperand hyear hparts.1,
        Part.wellFormed_of_asOperand hmonth hparts.2.1,
        Part.wellFormed_of_asOperand hday hparts.2.2.1, hbounds.ordered⟩
  | partialDate hyear hmonth hday =>
      simp only [List.forall_mem_cons] at hparts
      exact ⟨Part.wellFormed_of_asOperand hyear hparts.1,
        Part.wellFormed_of_asOperand hmonth hparts.2.1,
        Part.wellFormed_of_asOperand hday hparts.2.2.1⟩
  | unique h =>
      exact forall_of_mapM_eq_ok (fun p hp _ hx => Part.ne_empty_of_asReference hx (hparts p hp)) h
  | identical => trivial
  | fileExists h => exact h.wellFormed hparts
  | integrity hfolder hsubfolder hnone hrule =>
      obtain ⟨hboth, -⟩ := List.forall_mem_append.1 hparts
      obtain ⟨hbefore, hbetween⟩ := List.forall_mem_append.1 hboth
      exact ⟨hfolder.wellFormed hbefore, hsubfolder.wellFormed hbetween⟩
  | checksum hfile h => exact Part.wellFormed_of_asOperand hfile (hparts _ (by simp))
  | fileCount h => exact Part.wellFormed_of_asOperand h (hparts _ (by simp))

section Compounds

variable {check : Check}

theorem wellFormed_of_map_switchCase {cases : List SwitchCase}
    (h : ∀ p ∈ cases.map Part.switchCase, p.WellFormed) :
    ∀ switchCase ∈ cases, switchCase.WellFormed :=
  fun switchCase hcase => h (.switchCase switchCase) (List.mem_map_of_mem hcase)

theorem wellFormed_of_map_check {checks : List Check}
    (h : ∀ p ∈ checks.map Part.check, p.WellFormed) : ∀ check ∈ checks, check.WellFormed :=
  fun check hcheck => h (.check check) (List.mem_map_of_mem hcheck)

include hparts

theorem wellFormed_of_reduceChecks {checks : List Check} (h : reduceChecks parts = .ok checks) :
    checks ≠ [] ∧ ∀ check ∈ checks, check.WellFormed := by
  obtain ⟨hne, rfl⟩ := (reduceChecks_eq_ok_iff checks).1 h
  exact ⟨hne, wellFormed_of_map_check hparts⟩

/-- A combination that is well formed with two parts or more. -/
theorem wellFormed_of_reduceLogical {combine : List Check → Check}
    (hcombine : ∀ checks, 2 ≤ checks.length → (∀ check ∈ checks, check.WellFormed) →
      (combine checks).WellFormed)
    (h : reduceLogical combine parts = .ok check) : check.WellFormed := by
  obtain ⟨checks, hlength, rfl, rfl⟩ := (reduceLogical_eq_ok_iff combine).1 h
  exact hcombine checks hlength (wellFormed_of_map_check hparts)

theorem ReadsOtherwise.wellFormed {otherwise : Option (List Check)}
    (h : ReadsOtherwise parts otherwise) :
    ∀ checks ∈ otherwise, checks ≠ [] ∧ ∀ check ∈ checks, check.WellFormed := by
  cases h with
  | omitted => simp
  | given h => simpa using Part.wellFormed_of_asClause h (hparts _ (by simp))

theorem wellFormed_of_reduceSingle (h : reduceSingle parts = .ok check) : check.WellFormed := by
  obtain ⟨column, inner, rfl, rfl⟩ := reduceSingle_eq_ok_iff.1 h
  refine .single (fun name hname => ?_) (hparts (.check inner) (by simp))
  cases hname
  exact Part.ne_empty_of_asReference rfl (hparts (.operand (.column name)) (by simp))

theorem wellFormed_of_reduceConditional (h : reduceConditional parts = .ok check) :
    check.WellFormed := by
  obtain ⟨condition, part, clause, rest, otherwise, hclause, hotherwise, rfl, rfl⟩ :=
    reduceConditional_eq_ok_iff.1 h
  simp only [List.forall_mem_cons] at hparts
  obtain ⟨hcondition, hpart, hrest⟩ := hparts
  obtain ⟨hne, hchecks⟩ := Part.wellFormed_of_asClause hclause hpart
  have hothers := hotherwise.wellFormed hrest
  exact .conditional hcondition hne hchecks (fun checks hmem => (hothers checks hmem).1)
    fun checks hmem => (hothers checks hmem).2

theorem wellFormed_of_reduceCase {switchCase : SwitchCase} (h : reduceCase parts = .ok switchCase) :
    switchCase.WellFormed := by
  obtain ⟨condition, part, clause, hclause, rfl, rfl⟩ := reduceCase_eq_ok_iff.1 h
  simp only [List.forall_mem_cons] at hparts
  obtain ⟨hne, hchecks⟩ := Part.wellFormed_of_asClause hclause hparts.2.1
  exact .mk hparts.1 hne hchecks

theorem wellFormed_of_reduceSwitch (h : reduceSwitch parts = .ok check) : check.WellFormed := by
  obtain ⟨cases, rest, otherwise, hne, hotherwise, rfl, rfl⟩ := reduceSwitch_eq_ok_iff.1 h
  obtain ⟨hcases, hrest⟩ := List.forall_mem_append.1 hparts
  have hothers := hotherwise.wellFormed hrest
  exact .switch hne (wellFormed_of_map_switchCase hcases)
    (fun checks hmem => (hothers checks hmem).1) fun checks hmem => (hothers checks hmem).2

end Compounds

end CsvSchema
