import Mathlib.Algebra.Ring.Nat
import Mathlib.Data.List.Induction
import CsvSchema.Decimal.Natural

/-!
# Decimal digits

Reading decimal digits undoes writing them, with or without zeros in front, so different numbers
have different digits.  A natural number is read from digits with or without a plus sign in front.
-/

namespace CsvSchema.Decimal

section Digit

variable {value : Nat} (h : value < 10)
include h

theorem cases_of_lt_ten : value = 0 ∨ value = 1 ∨ value = 2 ∨ value = 3 ∨ value = 4 ∨ value = 5 ∨
    value = 6 ∨ value = 7 ∨ value = 8 ∨ value = 9 := by
  omega

theorem isDigit_digitChar : isDigit (digitChar value) = true := by
  rcases cases_of_lt_ten h with rfl | rfl | rfl | rfl | rfl | rfl | rfl | rfl | rfl | rfl <;> decide

theorem digitValue_digitChar : digitValue (digitChar value) = value := by
  rcases cases_of_lt_ten h with rfl | rfl | rfl | rfl | rfl | rfl | rfl | rfl | rfl | rfl <;> decide

end Digit

theorem digitsValue_append_singleton (s : List Char) (c : Char) :
    digitsValue (s ++ [c]) = digitsValue s * 10 + digitValue c := by
  rw [digitsValue, digitsValue, List.foldl_append, List.foldl_cons, List.foldl_nil]

theorem digitsValue_append (s t : List Char) :
    digitsValue (s ++ t) = digitsValue s * 10 ^ t.length + digitsValue t := by
  induction t using List.reverseRecOn with
  | nil => simp [digitsValue]
  | append_singleton t c ih =>
      rw [← List.append_assoc, digitsValue_append_singleton, digitsValue_append_singleton, ih,
        List.length_append, List.length_singleton, Nat.pow_succ, Nat.add_mul, Nat.mul_assoc,
        Nat.add_assoc]

theorem digitValue_lt {c : Char} (h : isDigit c = true) : digitValue c < 10 := by
  simp only [isDigit, Bool.and_eq_true, decide_eq_true_eq] at h
  have hlast : c.toNat ≤ '9'.toNat := h.2
  have hnine : '9'.toNat = 57 := rfl
  have hzero : '0'.toNat = 48 := rfl
  rw [digitValue]
  omega

/-- Some digits write a number below the power of ten that has one place more. -/
theorem digitsValue_lt {s : List Char} (h : ∀ c ∈ s, isDigit c = true) :
    digitsValue s < 10 ^ s.length := by
  induction s using List.reverseRecOn with
  | nil => decide
  | append_singleton s c ih =>
      obtain ⟨hs, hc⟩ := List.forall_mem_append.1 h
      have hlast := digitValue_lt (hc c List.mem_cons_self)
      have hbefore := ih hs
      rw [digitsValue_append_singleton, List.length_append, List.length_singleton, Nat.pow_succ]
      omega

/-- Reading the digits of a number gives the number. -/
theorem digitsValue_digits (n : Nat) : digitsValue (digits n) = n := by
  induction n using Nat.strongRecOn with
  | ind n ih =>
      rw [digits]
      split
      · rename_i hsmall
        rw [← List.nil_append [digitChar n], digitsValue_append_singleton,
          digitValue_digitChar hsmall]
        exact Nat.zero_add n
      · have hlast : n % 10 < 10 := Nat.mod_lt n (by decide)
        rw [digitsValue_append_singleton, ih (n / 10) (by omega), digitValue_digitChar hlast]
        omega

theorem isDigit_of_mem_digits {n : Nat} : ∀ c ∈ digits n, isDigit c = true := by
  induction n using Nat.strongRecOn with
  | ind n ih =>
      rw [digits]
      split
      · rename_i hsmall
        intro c hc
        rw [List.mem_singleton.1 hc]
        exact isDigit_digitChar hsmall
      · intro c hc
        rcases List.mem_append.1 hc with hc | hc
        · exact ih (n / 10) (by omega) c hc
        · rw [List.mem_singleton.1 hc]
          exact isDigit_digitChar (Nat.mod_lt n (by decide))

theorem digits_ne_nil (n : Nat) : digits n ≠ [] := by
  rw [digits]
  split
  · exact List.cons_ne_nil _ _
  · exact List.append_ne_nil_of_right_ne_nil _ (List.cons_ne_nil _ _)

/-- The digits of a natural number start with nothing else than a digit. -/
theorem exists_digits_eq_cons (n : Nat) :
    ∃ c s, digits n = c :: s ∧ ∀ d, isDigit d = false → c ≠ d := by
  obtain ⟨c, s, hs⟩ := List.exists_cons_of_ne_nil (digits_ne_nil n)
  have hc : isDigit c = true := isDigit_of_mem_digits c (hs ▸ List.mem_cons_self)
  refine ⟨c, s, hs, ?_⟩
  rintro d hd rfl
  rw [hc] at hd
  cases hd

/-- Only the digits of zero start with a zero. -/
theorem digits_eq_of_head? {n : Nat} (h : (digits n).head? = some '0') : digits n = ['0'] := by
  suffices hzero : n = 0 by
    rw [hzero, digits, if_pos (by decide)]
    rfl
  induction n using Nat.strongRecOn with
  | ind n ih =>
      rw [digits] at h
      split at h
      · rename_i hsmall
        have hdigit : digitChar n = '0' := Option.some.inj h
        rw [← digitValue_digitChar hsmall, hdigit]
        rfl
      · obtain ⟨c, s, hs⟩ := List.exists_cons_of_ne_nil (digits_ne_nil (n / 10))
        rw [hs, List.cons_append, List.head?_cons] at h
        have hten : n / 10 = 0 := ih (n / 10) (by omega) (by rw [hs, List.head?_cons, h])
        omega

/-- A number below a power of ten has no more digits than the exponent says. -/
theorem length_digits_le {n width : Nat} (h : n < 10 ^ (width + 1)) :
    (digits n).length ≤ width + 1 := by
  induction width generalizing n with
  | zero =>
      rw [digits, if_pos (by simpa using h)]
      exact Nat.le_refl 1
  | succ width ih =>
      rw [digits]
      split
      · exact Nat.succ_le_succ (Nat.zero_le _)
      · have hless : n / 10 < 10 ^ (width + 1) := by
          rw [Nat.div_lt_iff_lt_mul (by decide), ← Nat.pow_succ]
          exact h
        have hlength := ih hless
        rw [List.length_append, List.length_singleton]
        omega

section Reading

theorem isDigits_iff {s : List Char} :
    isDigits s = true ↔ s ≠ [] ∧ ∀ c ∈ s, isDigit c = true := by
  rw [isDigits, Bool.and_eq_true, Bool.not_eq_true', List.isEmpty_eq_false_iff, List.all_eq_true]

theorem isDigits_digits (n : Nat) : isDigits (digits n) = true :=
  isDigits_iff.2 ⟨digits_ne_nil n, isDigit_of_mem_digits⟩

theorem not_isDigits_plus (rest : List Char) : ¬isDigits ('+' :: rest) = true := fun h =>
  absurd ((isDigits_iff.1 h).2 '+' List.mem_cons_self) (by decide)

theorem readNatural?_eq_some_iff {limit n : Nat} {s : List Char} :
    readNatural? limit s = some n ↔
      ∃ ds, (s = ds ∨ s = '+' :: ds) ∧ isDigits ds = true ∧ digitsValue ds = n ∧ n ≤ limit := by
  have hread : ∀ {ds : List Char}, (if isDigits ds && digitsValue ds ≤ limit then
      some (digitsValue ds) else none) = some n ↔
        isDigits ds = true ∧ digitsValue ds = n ∧ n ≤ limit := by
    intro ds
    simp only [Bool.and_eq_true, decide_eq_true_eq, Option.ite_none_right_eq_some,
      Option.some.injEq]
    constructor
    · rintro ⟨⟨hdigits, hlimit⟩, rfl⟩
      exact ⟨hdigits, rfl, hlimit⟩
    · rintro ⟨hdigits, rfl, hlimit⟩
      exact ⟨⟨hdigits, hlimit⟩, rfl⟩
  unfold readNatural?
  split
  · rename_i rest
    refine hread.trans ⟨fun h => ⟨rest, .inr rfl, h⟩, ?_⟩
    rintro ⟨ds, rfl | hs, hdigits, hvalue⟩
    · exact absurd hdigits (not_isDigits_plus rest)
    · cases hs
      exact ⟨hdigits, hvalue⟩
  · rename_i hplus
    refine hread.trans ⟨fun h => ⟨s, .inl rfl, h⟩, ?_⟩
    rintro ⟨ds, rfl | hs, h⟩
    · exact h
    · exact absurd hs (hplus ds)

/-- The digits of a number within a limit are read as the number. -/
theorem readNatural?_digits {limit n : Nat} (h : n ≤ limit) :
    readNatural? limit (digits n) = some n :=
  readNatural?_eq_some_iff.2 ⟨digits n, .inl rfl, isDigits_digits n, digitsValue_digits n, h⟩

end Reading

section Padding

/-- Zeros in front do not count. -/
theorem digitsValue_replicate_append (count : Nat) (s : List Char) :
    digitsValue (List.replicate count '0' ++ s) = digitsValue s := by
  induction count with
  | zero => rfl
  | succ count ih => exact ih

theorem digitsValue_paddedDigits (width n : Nat) : digitsValue (paddedDigits width n) = n := by
  rw [paddedDigits, digitsValue_replicate_append, digitsValue_digits]

theorem length_paddedDigits {width n : Nat} (h : n < 10 ^ (width + 1)) :
    (paddedDigits (width + 1) n).length = width + 1 := by
  have hlength := length_digits_le h
  simp only [paddedDigits, List.length_append, List.length_replicate]
  omega

theorem isDigit_of_mem_paddedDigits {width n : Nat} :
    ∀ c ∈ paddedDigits width n, isDigit c = true := by
  intro c hc
  rcases List.mem_append.1 hc with hc | hc
  · rw [(List.mem_replicate.1 hc).2]
    decide
  · exact isDigit_of_mem_digits c hc

theorem paddedDigits_ne_nil (width n : Nat) : paddedDigits width n ≠ [] :=
  List.append_ne_nil_of_right_ne_nil _ (digits_ne_nil n)

/-- Numbers of a fixed width are determined by their digits and whatever stands before these. -/
theorem eq_of_append_paddedDigits {width n₁ n₂ : Nat} {before₁ before₂ : List Char}
    (h₁ : n₁ < 10 ^ (width + 1)) (h₂ : n₂ < 10 ^ (width + 1))
    (h : before₁ ++ paddedDigits (width + 1) n₁ = before₂ ++ paddedDigits (width + 1) n₂) :
    before₁ = before₂ ∧ n₁ = n₂ := by
  have hlength := (length_paddedDigits h₁).trans (length_paddedDigits h₂).symm
  obtain ⟨hbefore, hdigits⟩ := List.append_inj' h hlength
  rw [← digitsValue_paddedDigits (width + 1) n₁, hdigits, digitsValue_paddedDigits]
  exact ⟨hbefore, rfl⟩

/-- So are they by their digits and whatever stands behind these. -/
theorem eq_of_paddedDigits_append {width n₁ n₂ : Nat} {after₁ after₂ : List Char}
    (h₁ : n₁ < 10 ^ (width + 1)) (h₂ : n₂ < 10 ^ (width + 1))
    (h : paddedDigits (width + 1) n₁ ++ after₁ = paddedDigits (width + 1) n₂ ++ after₂) :
    n₁ = n₂ ∧ after₁ = after₂ := by
  have hlength := (length_paddedDigits h₁).trans (length_paddedDigits h₂).symm
  obtain ⟨hdigits, hafter⟩ := List.append_inj h hlength
  rw [← digitsValue_paddedDigits (width + 1) n₁, hdigits, digitsValue_paddedDigits]
  exact ⟨rfl, hafter⟩

end Padding

/-- Different natural numbers have different texts. -/
theorem natText_injective {n₁ n₂ : Nat} (h : natText n₁ = natText n₂) : n₁ = n₂ := by
  have hdigits : digits n₁ = digits n₂ := String.ofList_injective h
  rw [← digitsValue_digits n₁, hdigits, digitsValue_digits]

end CsvSchema.Decimal
