/-!
# Splitting and stripping

List operations on text that the readers share: cutting at a separator, taking a fixed prefix off
the front, and taking characters off either end.  Nothing here knows what the text means.
-/

namespace CsvSchema.Text

/-- Put `x` in front of the first piece. -/
def consFirst {α : Type} (x : α) : List (List α) → List (List α)
  | [] => [[x]]
  | piece :: pieces => (x :: piece) :: pieces

/-- The pieces between the elements that `isSeparator` accepts.  There is always
one piece more than there are separators, so the empty list has one empty piece. -/
def splitWhere {α : Type} (isSeparator : α → Bool) : List α → List (List α)
  | [] => [[]]
  | x :: rest =>
      if isSeparator x then [] :: splitWhere isSeparator rest
      else consFirst x (splitWhere isSeparator rest)

/-- The pieces between occurrences of one character. -/
def splitOn (separator : Char) (s : List Char) : List (List Char) :=
  splitWhere (· == separator) s

/-- Split at the first occurrence of a character, which is in neither part. -/
def splitFirst? (separator : Char) : List Char → Option (List Char × List Char)
  | [] => none
  | c :: rest =>
      if c == separator then some ([], rest)
      else (splitFirst? separator rest).map fun parts => (c :: parts.1, parts.2)

/-- The rest of `s` after `start`, if `s` begins with it. -/
def dropStart? {α : Type} [BEq α] : List α → List α → Option (List α)
  | [], s => some s
  | _ :: _, [] => none
  | x :: start, y :: s => if x == y then dropStart? start s else none

/-- Drop the elements that `p` accepts from the end. -/
def dropEndWhile {α : Type} (p : α → Bool) (s : List α) : List α :=
  (s.reverse.dropWhile p).reverse

/-- Whether the elements of `part` stand next to each other somewhere in `s`. -/
def isInfixOf {α : Type} [BEq α] (part : List α) : List α → Bool
  | [] => part.isEmpty
  | x :: rest => part.isPrefixOf (x :: rest) || isInfixOf part rest

/-- The pieces with `separator` between each two of them. -/
def joinWith (separator : String) : List String → String
  | [] => ""
  | [piece] => piece
  | piece :: next :: rest => piece ++ separator ++ joinWith separator (next :: rest)

theorem splitWhere_ne_nil {α : Type} (isSeparator : α → Bool) (s : List α) :
    splitWhere isSeparator s ≠ [] := by
  cases s with
  | nil => simp [splitWhere]
  | cons x rest =>
      simp only [splitWhere]
      split
      · simp
      · cases splitWhere isSeparator rest <;> simp [consFirst]

theorem dropStart?_eq_some_iff {α : Type} [BEq α] [LawfulBEq α] {start s rest : List α} :
    dropStart? start s = some rest ↔ s = start ++ rest := by
  induction start generalizing s with
  | nil => simp [dropStart?]
  | cons x start ih =>
      cases s with
      | nil => simp [dropStart?]
      | cons y s =>
          by_cases h : x = y
          · subst h
            simp [dropStart?, ih]
          · simp [dropStart?, h, Ne.symm h]

theorem isInfixOf_iff {α : Type} [BEq α] [LawfulBEq α] {part s : List α} :
    isInfixOf part s = true ↔ part <:+: s := by
  induction s with
  | nil => rw [isInfixOf, List.isEmpty_iff, List.infix_nil]
  | cons x rest ih =>
      rw [isInfixOf, Bool.or_eq_true, ih, List.isPrefixOf_iff_prefix, List.infix_cons_iff]

/-- A beginning of which all elements have a property, and a rest that starts with one that has not,
are determined by the whole. -/
theorem eq_of_span {α : Type} {p : α → Bool} {start₁ start₂ rest₁ rest₂ : List α}
    (h : start₁ ++ rest₁ = start₂ ++ rest₂) (h₁ : ∀ x ∈ start₁, p x = true)
    (h₂ : ∀ x ∈ start₂, p x = true) (hrest₁ : ∃ x after, rest₁ = x :: after ∧ p x = false)
    (hrest₂ : ∃ x after, rest₂ = x :: after ∧ p x = false) :
    start₁ = start₂ ∧ rest₁ = rest₂ := by
  obtain ⟨x₁, after₁, rfl, hx₁⟩ := hrest₁
  obtain ⟨x₂, after₂, rfl, hx₂⟩ := hrest₂
  have hcut : ∀ (start : List α) (x : α) (after : List α), (∀ y ∈ start, p y = true) →
      p x = false → (start ++ x :: after).takeWhile p = start := by
    intro start x after hstart hx
    rw [List.takeWhile_append_of_pos hstart, List.takeWhile_cons_of_neg (by simp [hx]),
      List.append_nil]
  have hstarts : start₁ = start₂ := by
    rw [← hcut start₁ x₁ after₁ h₁ hx₁, h, hcut start₂ x₂ after₂ h₂ hx₂]
  subst hstarts
  exact ⟨rfl, List.append_cancel_left h⟩

/-- Drop `start` from the front of `s` as often as it is there.  An empty
`start` drops nothing. -/
def dropStartRepeatedly (start s : List Char) : List Char :=
  match _h : dropStart? start s with
  | none => s
  | some rest => if start = [] then s else dropStartRepeatedly start rest
termination_by s.length
decreasing_by
  have hs := dropStart?_eq_some_iff.1 _h
  have hpos := List.length_pos_iff.2 ‹¬ start = []›
  simp only [hs, List.length_append]
  omega

end CsvSchema.Text
