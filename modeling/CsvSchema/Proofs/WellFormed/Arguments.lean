import CsvSchema.Proofs.WellFormed.Basic
import CsvSchema.Proofs.Slots.Parts

/-!
# Well-formed parts

A part is well formed if what it stands for is.  The readers of arguments give well-formed things
for well-formed parts, and bounds that are in order for any tokens.
-/

namespace CsvSchema

open Fallible

/-- The value of a directive is one that the directive may have. -/
def GlobalSetting.WellFormed : GlobalSetting → Prop
  | separator mark => IsSeparator mark
  | totalColumns total => 1 ≤ total
  | _ => True

/-- What a part stands for is well formed. -/
def Part.WellFormed : Part → Prop
  | .setting x => x.WellFormed
  | .settings x => x.WellFormed
  | .prolog _ x => x.WellFormed
  | .body xs _ => ∀ x ∈ xs, x.WellFormed
  | .column x => x.WellFormed
  | .rule x => x.WellFormed
  | .check x => x.WellFormed
  | .clause xs => xs ≠ [] ∧ ∀ x ∈ xs, x.WellFormed
  | .switchCase x => x.WellFormed
  | .operand x => x.WellFormed
  | .schema x => x.WellFormed
  | .token _ | .comment | .columnDirective _ | .columnSettings _ => True

/-- What a list is read into has a property if each element is read into something with it. -/
theorem Fallible.forall_of_mapM_eq_ok {ε α β : Type} {read : α → Except ε β} {p : β → Prop}
    {as : List α} {bs : List β} (h : ∀ a ∈ as, ∀ b, read a = .ok b → p b)
    (hread : as.mapM read = .ok bs) : ∀ b ∈ bs, p b := by
  induction as generalizing bs with
  | nil =>
      cases hread
      simp
  | cons a as ih =>
      simp only [List.mapM_cons, bind_eq_ok, pure_eq_ok] at hread
      obtain ⟨b, hb, rest, hrest, rfl⟩ := hread
      obtain ⟨ha, has⟩ := List.forall_mem_cons.1 h
      exact List.forall_mem_cons.2 ⟨ha b hb, ih has hrest⟩

namespace Part

variable {part : Part}

theorem wellFormed_of_asOperand {operand : Operand} (h : part.asOperand = .ok operand)
    (hpart : part.WellFormed) : operand.WellFormed := by
  cases part with
  | operand x =>
      cases h
      exact hpart
  | token text =>
      cases h
      exact .literal _
  | _ => cases h

theorem ne_empty_of_asReference {name : String} (h : part.asReference = .ok name)
    (hpart : part.WellFormed) : name ≠ "" := by
  rw [asReference_eq_ok_iff] at h
  subst h
  cases hpart with
  | column hname => exact hname

/-- A clause is not empty, also where one check stands for it. -/
theorem wellFormed_of_asClause {checks : List Check} (h : part.asClause = .ok checks)
    (hpart : part.WellFormed) : checks ≠ [] ∧ ∀ check ∈ checks, check.WellFormed := by
  rcases (asClause_eq_ok_iff part checks).1 h with rfl | ⟨check, rfl, rfl⟩
  · exact hpart
  · exact ⟨List.cons_ne_nil _ _, List.forall_mem_singleton.2 hpart⟩

theorem wellFormed_of_asSetting {setting : GlobalSetting} (h : part.asSetting = .ok setting)
    (hpart : part.WellFormed) : setting.WellFormed := by
  cases part with
  | setting x =>
      cases h
      exact hpart
  | _ => cases h

end Part

section Bounds

variable {α : Type}

theorem Bounds.ordered_unbounded [LE α] : (Bounds.unbounded : Bounds α).Ordered := by
  rintro lower hlower
  cases hlower

theorem exists_of_readBound {rule : String} {read : String → Option α} {raw : String}
    {bound : Option α} (h : readBound rule read raw = .ok bound) :
    ∀ x ∈ bound, ∃ text, read text = some x := by
  unfold readBound at h
  split at h
  · cases h
    simp
  · split at h
    · rename_i x hread
      cases h
      rintro y hy
      cases hy
      exact ⟨_, hread⟩
    · cases h

/-- Bounds that are read are in order, and each that is there was read from some text. -/
theorem ordered_of_readBounds [LE α] [DecidableLE α] {form : BoundForm α} {lower upper : Part}
    {bounds : Bounds α} (h : readBounds form lower upper = .ok bounds) :
    bounds.Ordered ∧ bounds.Each fun x => ∃ text, form.read text = some x := by
  simp only [readBounds, bind_eq_ok] at h
  obtain ⟨lowText, -, low, hlow, highText, -, high, hhigh, h⟩ := h
  have hread : (⟨low, high⟩ : Bounds α).Each fun x => ∃ text, form.read text = some x :=
    ⟨exists_of_readBound hlow, exists_of_readBound hhigh⟩
  split at h
  · split at h
    · rename_i hle
      rw [← pure_eq_ok.1 h]
      refine ⟨?_, hread⟩
      rintro x hx y hy
      cases hx
      cases hy
      exact hle
    · simp only [throw_eq_ok] at h
  · -- One of the bounds is open.
    rename_i hopen
    rw [← pure_eq_ok.1 h]
    exact ⟨fun x hx y hy => absurd hy (hopen x y hx), hread⟩

end Bounds

end CsvSchema
