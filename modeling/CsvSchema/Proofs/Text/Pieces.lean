import CsvSchema.Text.Split

/-!
# Pieces of texts

A separator cuts a text into pieces that it is not in, and a text that was put together from such
pieces is cut into them again.
-/

namespace CsvSchema.Text

variable {α : Type} {isSeparator : α → Bool}

theorem consFirst_append (x : α) {pieces : List (List α)} (h : pieces ≠ [])
    (more : List (List α)) : consFirst x (pieces ++ more) = consFirst x pieces ++ more := by
  cases pieces with
  | nil => exact absurd rfl h
  | cons piece pieces => rfl

/-- A separator cuts a list in two. -/
theorem splitWhere_append {x : α} (hx : isSeparator x = true) (s rest : List α) :
    splitWhere isSeparator (s ++ x :: rest) =
      splitWhere isSeparator s ++ splitWhere isSeparator rest := by
  induction s with
  | nil => simp [splitWhere, hx]
  | cons y s ih =>
      simp only [List.cons_append, splitWhere, ih]
      split
      · rfl
      · exact consFirst_append y (splitWhere_ne_nil isSeparator s) _

theorem splitWhere_of_forall_not {s : List α} (h : ∀ x ∈ s, isSeparator x = false) :
    splitWhere isSeparator s = [s] := by
  induction s with
  | nil => rfl
  | cons x s ih =>
      obtain ⟨hx, hs⟩ := List.forall_mem_cons.1 h
      simp [splitWhere, hx, ih hs, consFirst]

theorem forall_not_of_mem_splitWhere {s piece : List α} (h : piece ∈ splitWhere isSeparator s) :
    ∀ x ∈ piece, isSeparator x = false := by
  induction s generalizing piece with
  | nil =>
      rw [List.mem_singleton.1 h]
      simp
  | cons y s ih =>
      simp only [splitWhere] at h
      split at h
      · rcases List.mem_cons.1 h with rfl | h
        · simp
        · exact ih h
      · rename_i hy
        cases hpieces : splitWhere isSeparator s with
        | nil => exact absurd hpieces (splitWhere_ne_nil isSeparator s)
        | cons first pieces =>
            rw [hpieces] at h ih
            rcases List.mem_cons.1 h with rfl | h
            · exact List.forall_mem_cons.2 ⟨by simpa using hy, ih List.mem_cons_self⟩
            · exact ih (List.mem_cons_of_mem _ h)

/-- The first part of a text that is cut at a character ends where the character is for the first
time. -/
theorem splitFirst?_eq_some_iff {separator : Char} {s before after : List Char} :
    splitFirst? separator s = some (before, after) ↔
      s = before ++ separator :: after ∧ separator ∉ before := by
  induction s generalizing before with
  | nil => simp [splitFirst?]
  | cons c rest ih =>
      rw [splitFirst?]
      split
      · rename_i hc
        rw [beq_iff_eq] at hc
        subst hc
        cases before with
        | nil => simp
        | cons b before => simp +contextual [eq_comm]
      · rename_i hc
        rw [beq_iff_eq] at hc
        rw [Option.map_eq_some_iff]
        constructor
        · rintro ⟨⟨front, back⟩, hfound, hparts⟩
          cases hparts
          obtain ⟨rfl, hfront⟩ := ih.1 hfound
          exact ⟨rfl, List.not_mem_cons_of_ne_of_not_mem (Ne.symm hc) hfront⟩
        · rintro ⟨hs, hbefore⟩
          cases before with
          | nil => exact absurd (List.cons.inj hs).1 hc
          | cons b before =>
              obtain ⟨rfl, hrest⟩ := List.cons.inj hs
              exact ⟨(before, after), ih.2 ⟨hrest, List.not_mem_of_not_mem_cons hbefore⟩, rfl⟩

/-- Where a character is for the first time is known from the whole text. -/
theorem eq_of_first {c : Char} {before₁ before₂ after₁ after₂ : List Char}
    (h : before₁ ++ c :: after₁ = before₂ ++ c :: after₂) (h₁ : c ∉ before₁) (h₂ : c ∉ before₂) :
    before₁ = before₂ ∧ after₁ = after₂ := by
  have hfirst := splitFirst?_eq_some_iff.2 ⟨h, h₂⟩
  rw [splitFirst?_eq_some_iff.2 ⟨rfl, h₁⟩] at hfirst
  exact Prod.mk.inj (Option.some.inj hfirst)

end CsvSchema.Text
