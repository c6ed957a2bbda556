import CsvSchema.Proofs.Decimal.Digits
import CsvSchema.Proofs.Json.Spelling

/-!
# Tokens that are read back

Every escape is undone, so a string comes back up to the spelling of its control characters.  The
digits of a natural number come back when what follows cannot continue them.
-/

namespace CsvSchema.Json

section Strings

theorem hexDigit?_hexDigitChar {n : Nat} (h : n < 16) : hexDigit? (hexDigitChar n) = some n := by
  have hall : ∀ n : Fin 16, hexDigit? (hexDigitChar n.val) = some n.val := by decide
  exact hall ⟨n, h⟩

/-- Four digits come back as the number that they write. -/
theorem hexUnit?_hexDigitChar {n : Nat} (h : n < 0x10000) :
    hexUnit? (hexDigitChar (n / 0x1000 % 16)) (hexDigitChar (n / 0x100 % 16))
      (hexDigitChar (n / 0x10 % 16)) (hexDigitChar (n % 16)) = some n := by
  have hdigit : ∀ m, hexDigit? (hexDigitChar (m % 16)) = some (m % 16) := fun m =>
    hexDigit?_hexDigitChar (Nat.mod_lt m (by decide))
  simp only [hexUnit?, hdigit, Option.some.injEq]
  omega

theorem readString?_codedEscape {n : Nat} (h : n < 0x10000) (rest : List Char) :
    readString? (codedEscape n ++ rest) =
      (readString? rest).map fun r => (.coded n :: r.1, r.2) := by
  simp only [codedEscape, List.cons_append, List.nil_append, readString?, hexUnit?_hexDigitChar h]

/-- A character without an escape stands for itself. -/
theorem readString?_cons {c : Char} (hquote : c ≠ '"') (hbackslash : c ≠ '\\')
    (hcontrol : ¬c.toNat < 0x20) (rest : List Char) :
    readString? (c :: rest) = (readString? rest).map fun r => (.plain c :: r.1, r.2) := by
  rw [readString?]
  · simp [hcontrol, hbackslash]
  · exact hquote
  · exact fun _ _ _ _ _ h => absurd h hbackslash
  · exact fun _ _ h => absurd h hbackslash

/-- A character is spelled by a letter behind a backslash, by its number, or by itself. -/
theorem escapeChar_cases (c : Char) :
    (∃ e, escapeChar c = ['\\', e] ∧ simpleEscape? e = some c) ∨
    (escapeChar c = codedEscape c.toNat ∧ c.toNat < 0x20) ∨
    (escapeChar c = [c] ∧ c ≠ '"' ∧ c ≠ '\\' ∧ ¬c.toNat < 0x20) := by
  have hletter : ∀ {d e : Char}, (c == d) = true → simpleEscape? e = some d →
      ∃ e', ['\\', e] = ['\\', e'] ∧ simpleEscape? e' = some c := by
    intro d e hd he
    exact ⟨e, rfl, (beq_iff_eq.1 hd).symm ▸ he⟩
  unfold escapeChar
  -- The characters with a letter of their own are looked at first.
  iterate 7
    split
    · exact .inl (hletter ‹_› rfl)
  split
  · exact .inr (.inl ⟨rfl, ‹_›⟩)
  · rename_i hquote hbackslash _ _ _ _ _ hcontrol
    exact .inr (.inr ⟨rfl, by simpa using hquote, by simpa using hbackslash, hcontrol⟩)

/-- Only a spelling by number comes back as a number. -/
theorem reread_plain_of_length {c : Char} (h : (escapeChar c).length < 6) :
    (StringUnit.plain c).reread = .plain c := by
  rw [StringUnit.reread, if_neg]
  intro heq
  rw [heq] at h
  exact absurd h (by simp [codedEscape])

/-- Only control characters come back as numbers. -/
theorem reread_plain_of_le {c : Char} (h : 0x20 ≤ c.toNat) :
    (StringUnit.plain c).reread = .plain c := by
  obtain ⟨e, hspelling, -⟩ | ⟨-, hcontrol⟩ | ⟨hspelling, -⟩ := escapeChar_cases c
  · exact reread_plain_of_length (by simp [hspelling])
  · omega
  · exact reread_plain_of_length (by simp [hspelling])

/-- What the spelling of a character adds to a string that is read. -/
theorem readString?_escapeChar (c : Char) (rest : List Char) :
    readString? (escapeChar c ++ rest) =
      (readString? rest).map fun r => ((StringUnit.plain c).reread :: r.1, r.2) := by
  obtain ⟨e, hspelling, hletter⟩ | ⟨hspelling, hcontrol⟩ |
    ⟨hspelling, hquote, hbackslash, hcontrol⟩ := escapeChar_cases c
  · have hnumber : e ≠ 'u' := by
      rintro rfl
      cases hletter
    rw [reread_plain_of_length (by simp [hspelling]), hspelling, List.cons_append,
      List.cons_append, List.nil_append, readString?]
    · rw [hletter]
    · exact fun _ _ _ _ _ h => absurd h hnumber
  · rw [StringUnit.reread, if_pos hspelling, hspelling, readString?_codedEscape (by omega)]
  · rw [reread_plain_of_length (by simp [hspelling]), hspelling, List.singleton_append,
      readString?_cons hquote hbackslash hcontrol]

/-- The text of a string comes back from behind its opening quote. -/
theorem readString?_unitsOf (s : String) (rest : List Char) :
    readString? ((unitsOf s).flatMap printUnit ++ '"' :: rest) =
      some ((unitsOf s).map StringUnit.reread, rest) := by
  rw [unitsOf]
  induction s.toList with
  | nil => simp [readString?]
  | cons c cs ih =>
      rw [List.map_cons, List.flatMap_cons, List.append_assoc, printUnit, readString?_escapeChar,
        ih]
      rfl

end Strings

section Blanks

theorem skipBlank_append {blanks : List Char} (h : ∀ c ∈ blanks, isJsonBlank c = true)
    (s : List Char) : skipBlank (blanks ++ s) = skipBlank s :=
  List.dropWhile_append_of_pos h

theorem skipBlank_cons {c : Char} (h : isJsonBlank c = false) (s : List Char) :
    skipBlank (c :: s) = c :: s := by
  rw [skipBlank, List.dropWhile_cons_of_neg (by simp [h])]

end Blanks

/-- The characters that end a value. -/
def valueEnds : List Char := [' ', '\n', '\t', '\r', ',', ']', '\x7d']

/-- What may follow a value: nothing at all, or something that ends it. -/
def EndsValue (rest : List Char) : Prop := ∀ c ∈ rest.head?, c ∈ valueEnds

theorem endsValue_cons {c : Char} (h : c ∈ valueEnds) (rest : List Char) :
    EndsValue (c :: rest) := by
  intro d hd
  obtain rfl : c = d := by simpa using hd
  exact h

theorem EndsValue.ne {c d : Char} {rest : List Char} (h : EndsValue (c :: rest))
    (hd : d ∉ valueEnds) : c ≠ d := by
  rintro rfl
  exact hd (h c rfl)

/-- Blanks may follow a value, and so may what may follow it without them. -/
theorem endsValue_append {blanks : List Char} (h : ∀ c ∈ blanks, isJsonBlank c = true)
    {rest : List Char} (hrest : EndsValue rest) : EndsValue (blanks ++ rest) := by
  cases blanks with
  | nil => exact hrest
  | cons c blanks =>
      have hc : isJsonBlank c = true := h c List.mem_cons_self
      refine endsValue_cons ?_ (blanks ++ rest)
      simp only [isJsonBlank, Bool.or_eq_true, beq_iff_eq] at hc
      rcases hc with ((rfl | rfl) | rfl) | rfl <;> decide

section Numbers

open Decimal

theorem spanDigits_append {s rest : List Char} (hs : ∀ c ∈ s, isDigit c = true)
    (hrest : ∀ c ∈ rest.head?, isDigit c = false) : spanDigits (s ++ rest) = (s, rest) := by
  have hstop : rest.takeWhile isDigit = [] ∧ rest.dropWhile isDigit = rest := by
    cases rest with
    | nil => exact ⟨rfl, rfl⟩
    | cons c rest => simp [hrest c rfl]
  rw [spanDigits, List.takeWhile_append_of_pos hs, List.dropWhile_append_of_pos hs, hstop.1,
    hstop.2, List.append_nil]

theorem readFraction?_of_ends {rest : List Char} (h : EndsValue rest) :
    readFraction? rest = some ([], rest) := by
  cases rest with
  | nil => rfl
  | cons c rest =>
      have hpoint : c ≠ '.' := h.ne (by decide)
      simp [readFraction?, hpoint]

theorem readExponent?_of_ends {rest : List Char} (h : EndsValue rest) :
    readExponent? rest = some ([], rest) := by
  cases rest with
  | nil => rfl
  | cons c rest =>
      have hsmall : c ≠ 'e' := h.ne (by decide)
      have hlarge : c ≠ 'E' := h.ne (by decide)
      simp [readExponent?, hsmall, hlarge]

/-- The digits of a natural number come back. -/
theorem readNumber?_digits (n : Nat) {rest : List Char} (hrest : EndsValue rest) :
    readNumber? (digits n ++ rest) = some (digits n, rest) := by
  have hends : ∀ c ∈ rest.head?, isDigit c = false := by
    intro c hc
    have hall : (valueEnds.all fun c => !isDigit c) = true := by decide
    simpa using List.all_eq_true.1 hall c (hrest c hc)
  -- No zero stands in front of other digits.
  have hwhole : ((digits n).isEmpty || ((digits n).head? == some '0' && (digits n).length != 1)) =
      false := by
    rw [Bool.or_eq_false_iff, Bool.and_eq_false_imp]
    refine ⟨by simpa using digits_ne_nil n, fun hzero => ?_⟩
    rw [digits_eq_of_head? (beq_iff_eq.1 hzero)]
    rfl
  obtain ⟨c, s, hdigits, hc⟩ := exists_digits_eq_cons n
  have hspan := spanDigits_append (fun c hc => isDigit_of_mem_digits (n := n) c hc) hends
  rw [hdigits] at hspan hwhole ⊢
  rw [List.cons_append] at hspan ⊢
  unfold readNumber?
  split
  rename_i sign unsigned hmatch
  split at hmatch
  · rename_i heq
    exact absurd (List.cons.inj heq).1 (hc '-' rfl)
  · obtain ⟨rfl, rfl⟩ := hmatch
    simp only [hspan, hwhole, readFraction?_of_ends hrest]
    simp [readExponent?_of_ends hrest]

end Numbers

end CsvSchema.Json
