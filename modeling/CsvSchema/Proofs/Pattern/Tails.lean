import Mathlib.Data.List.Infix
import CsvSchema.Pattern.Reader.Group

/-!
# Reading in front of a tail

An anchored pattern is read with a closing parenthesis and the end of the text behind it.  A reader
that stops in front of these reads the same without them, `Agrees`; one that takes a part of them
for its own has lost what would close the group around the pattern.
-/

namespace CsvSchema.Pattern

open Text (isBlank dropStart?)

/-- What stands behind a pattern where it is anchored. -/
def anchorTail : List Char := [')', '$']

/-- What can be left of a text so that reading it cannot end well, whatever is taken off its
front. -/
structure Loss where
  Holds : List Char → Prop
  of_suffix : ∀ {s rest}, rest <:+ s → Holds s → Holds rest
  of_cut : ∀ {rest}, rest <:+ ['$'] → Holds rest

/-- A part of the tail is gone. -/
def Loss.cut : Loss := ⟨(· <:+ ['$']), List.IsSuffix.trans, id⟩

variable {α β : Type} {loss : Loss}

/-- What is read in front of the tail is read without it too, unless what is left is lost. -/
def Agrees (loss : Loss) (whole alone : Option (α × List Char)) : Prop :=
  ∀ x left, whole = some (x, left) →
    loss.Holds left ∨ ∃ rest, left = rest ++ anchorTail ∧ alone = some (x, rest)

/-- A reader leaves the end of a text, and it agrees with itself in front of the tail. -/
structure Reads (loss : Loss) (read : List Char → Option (α × List Char)) : Prop where
  suffix : ∀ {s x rest}, read s = some (x, rest) → rest <:+ s
  agrees : ∀ s, Agrees loss (read (s ++ anchorTail)) (read s)

namespace Agrees

theorem none (alone : Option (α × List Char)) : Agrees loss Option.none alone :=
  fun _ _ h => by cases h

theorem some (x : α) (rest : List Char) :
    Agrees loss (Option.some (x, rest ++ anchorTail)) (Option.some (x, rest)) := by
  rintro _ _ ⟨rfl, rfl⟩
  exact .inr ⟨rest, rfl, rfl⟩

/-- Reading that starts within the tail is lost. -/
theorem of_cut {whole : Option (α × List Char)} (h : ∀ x left, whole = Option.some (x, left) →
    left <:+ ['$']) (alone : Option (α × List Char)) : Agrees loss whole alone :=
  fun x left hread => .inl (loss.of_cut (h x left hread))

theorem map {whole alone : Option (α × List Char)} (h : Agrees loss whole alone) (f : α → β) :
    Agrees loss (whole.map fun p => (f p.1, p.2)) (alone.map fun p => (f p.1, p.2)) := by
  intro y left hread
  obtain ⟨⟨x, rest⟩, hwhole, hy⟩ := Option.map_eq_some_iff.1 hread
  cases hy
  refine (h x rest hwhole).imp_right ?_
  rintro ⟨rest, rfl, halone⟩
  exact ⟨rest, rfl, by rw [halone]; rfl⟩

theorem bind {whole alone : Option (α × List Char)}
    {next : α × List Char → Option (β × List Char)} (h : Agrees loss whole alone)
    (hnext : ∀ x, Reads loss fun rest => next (x, rest)) :
    Agrees loss (whole.bind next) (alone.bind next) := by
  intro y left hread
  obtain ⟨⟨x, middle⟩, hwhole, hmore⟩ := Option.bind_eq_some_iff.1 hread
  rcases h x middle hwhole with hlost | ⟨rest, rfl, halone⟩
  · exact .inl (loss.of_suffix ((hnext x).suffix hmore) hlost)
  · refine ((hnext x).agrees rest y left hmore).imp_right ?_
    rintro ⟨rest, rfl, hrest⟩
    exact ⟨rest, rfl, by rw [halone]; exact hrest⟩

end Agrees

namespace Reads

theorem map {read : List Char → Option (α × List Char)} (h : Reads loss read) (f : α → β) :
    Reads loss fun s => (read s).map fun p => (f p.1, p.2) where
  suffix hread := by
    obtain ⟨⟨x, rest⟩, hx, hy⟩ := Option.map_eq_some_iff.1 hread
    cases hy
    exact h.suffix hx
  agrees s := (h.agrees s).map f

theorem bind {read : List Char → Option (α × List Char)}
    {next : α × List Char → Option (β × List Char)} (h : Reads loss read)
    (hnext : ∀ x, Reads loss fun rest => next (x, rest)) :
    Reads loss fun s => (read s).bind next where
  suffix hread := by
    obtain ⟨⟨x, middle⟩, hx, hmore⟩ := Option.bind_eq_some_iff.1 hread
    exact ((hnext x).suffix hmore).trans (h.suffix hx)
  agrees s := (h.agrees s).bind hnext

/-- What has been read is looked up, and the rest is left as it is. -/
theorem lookup (found : Option β) : Reads loss fun rest => found.map (·, rest) where
  suffix h := by
    obtain ⟨y, -, hy⟩ := Option.map_eq_some_iff.1 h
    cases hy
    exact List.suffix_rfl
  agrees s := by
    cases found with
    | none => exact .none _
    | some y => exact .some y s

theorem found (x : β) : Reads loss fun rest => some (x, rest) := .lookup (some x)

theorem failed : Reads loss fun _ => (none : Option (β × List Char)) := .lookup none

/-- A reader that takes the first character, and then reads on. -/
theorem of_cons {read : List Char → Option (α × List Char)}
    {next : Char → List Char → Option (α × List Char)} (hnil : read [] = none)
    (hcons : ∀ c rest, read (c :: rest) = next c rest) (hnext : ∀ c, Reads loss (next c)) :
    Reads loss read where
  suffix {s x rest} h := by
    cases s with
    | nil => rw [hnil] at h; cases h
    | cons c more =>
        rw [hcons] at h
        exact ((hnext c).suffix h).trans (List.suffix_cons c more)
  agrees s := by
    cases s with
    | nil =>
        refine .of_cut (fun x left h => ?_) _
        rw [anchorTail, List.nil_append, hcons] at h
        exact (hnext ')').suffix h
    | cons c rest =>
        rw [List.cons_append, hcons, hcons]
        exact (hnext c).agrees rest

/-- A reader that goes one way if a text starts with a mark and another way if it does not. -/
theorem of_mark {read marked other : List Char → Option (α × List Char)} {mark : Char}
    (hmark : mark ≠ ')') (hstart : ∀ rest, read (mark :: rest) = marked rest)
    (hother : ∀ s, s.head? ≠ Option.some mark → read s = other s)
    (hmarked : Reads loss marked) (helse : Reads loss other) : Reads loss read where
  suffix {s x rest} h := by
    by_cases hs : s.head? = Option.some mark
    · obtain ⟨more, rfl⟩ := List.head?_eq_some_iff.1 hs
      rw [hstart] at h
      exact (hmarked.suffix h).trans (List.suffix_cons mark more)
    · rw [hother s hs] at h
      exact helse.suffix h
  agrees s := by
    by_cases hs : s.head? = Option.some mark
    · obtain ⟨more, rfl⟩ := List.head?_eq_some_iff.1 hs
      rw [List.cons_append, hstart, hstart]
      exact hmarked.agrees more
    · have htail : (s ++ anchorTail).head? ≠ Option.some mark := by
        cases s with
        | nil => exact fun h => hmark (Option.some.inj h).symm
        | cons c rest => exact hs
      rw [hother s hs, hother _ htail]
      exact helse.agrees s

end Reads

section Blanks

variable (ignoring : Bool)

theorem skipIgnored_suffix (comment : Bool) (s : List Char) : skipIgnored comment s <:+ s := by
  induction s generalizing comment with
  | nil => exact List.suffix_rfl
  | cons c rest ih =>
      unfold skipIgnored
      split
      · exact (ih _).trans (List.suffix_cons c rest)
      · split
        · exact (ih _).trans (List.suffix_cons c rest)
        · split
          · exact (ih _).trans (List.suffix_cons c rest)
          · exact List.suffix_rfl

theorem skip_suffix (s : List Char) : skip ignoring s <:+ s := by
  unfold skip
  split
  · exact skipIgnored_suffix false s
  · exact List.suffix_rfl

theorem skip_nil : skip ignoring [] = [] := by
  cases ignoring <;> rfl

theorem skip_anchorTail : skip ignoring anchorTail = anchorTail := by
  cases ignoring <;> rfl

theorem skipIgnored_append (comment : Bool) (s : List Char) :
    (∃ c rest, skipIgnored comment s = c :: rest ∧
      skipIgnored comment (s ++ anchorTail) = c :: (rest ++ anchorTail)) ∨
    skipIgnored comment s = [] ∧ (skipIgnored comment (s ++ anchorTail) = anchorTail ∨
      skipIgnored comment (s ++ anchorTail) = []) := by
  induction s generalizing comment with
  | nil =>
      refine .inr ⟨rfl, ?_⟩
      cases comment with
      | false => exact .inl rfl
      | true => exact .inr rfl
  | cons c rest ih =>
      rw [List.cons_append, skipIgnored, skipIgnored]
      split
      · exact ih _
      · split
        · exact ih _
        · split
          · exact ih _
          · exact .inl ⟨c, rest, rfl, rfl⟩

/-- The tail is behind the first character that is not ignored, or there is none and the tail comes
next, or the tail stands in a comment. -/
theorem skip_append (s : List Char) :
    (∃ c rest, skip ignoring s = c :: rest ∧
      skip ignoring (s ++ anchorTail) = c :: (rest ++ anchorTail)) ∨
    skip ignoring s = [] ∧ (skip ignoring (s ++ anchorTail) = anchorTail ∨
      skip ignoring (s ++ anchorTail) = []) := by
  cases ignoring with
  | false =>
      cases s with
      | nil => exact .inr ⟨rfl, .inl rfl⟩
      | cons c rest => exact .inl ⟨c, rest, rfl, rfl⟩
  | true => exact skipIgnored_append false s

theorem Reads.skip {read : List Char → Option (α × List Char)} (h : Reads loss read) :
    Reads loss fun s => read (skip ignoring s) where
  suffix hread := (h.suffix hread).trans (skip_suffix ignoring _)
  agrees s := by
    obtain ⟨c, rest, hs, htail⟩ | ⟨hs, htail | htail⟩ := skip_append ignoring s
    · rw [hs, htail]
      exact h.agrees (c :: rest)
    · rw [hs, htail]
      exact h.agrees []
    · rw [htail]
      exact .of_cut (fun x left hread => (h.suffix hread).trans List.nil_suffix) _

theorem readBraced?_suffix {ignoring comment : Bool} {s found rest : List Char}
    (h : readBraced? ignoring comment s = some (found, rest)) : rest <:+ s := by
  induction s generalizing comment found with
  | nil => cases h
  | cons c more ih =>
      rw [readBraced?] at h
      split at h
      · exact (ih h).trans (List.suffix_cons c more)
      · split at h
        · exact (ih h).trans (List.suffix_cons c more)
        · split at h
          · exact (ih h).trans (List.suffix_cons c more)
          · split at h
            · cases h
              exact List.suffix_cons c rest
            · obtain ⟨⟨found, rest⟩, hmore, hcons⟩ := Option.map_eq_some_iff.1 h
              cases hcons
              exact (ih hmore).trans (List.suffix_cons c more)

theorem reads_readBraced? (comment : Bool) : Reads loss (readBraced? ignoring comment) where
  suffix := readBraced?_suffix
  agrees s := by
    induction s generalizing comment with
    | nil =>
        -- There is no brace in the tail.
        have hnone : readBraced? ignoring comment anchorTail = none := by
          cases ignoring <;> cases comment <;> rfl
        rw [List.nil_append, hnone]
        exact .none _
    | cons c rest ih =>
        rw [List.cons_append, readBraced?, readBraced?]
        split
        · exact ih _
        · split
          · exact ih _
          · split
            · exact ih _
            · split
              · exact .some [] rest
              · exact (ih false).map (c :: ·)

theorem readWhile_suffix (p : Char → Bool) (comment : Bool) (s : List Char) :
    (readWhile p ignoring comment s).2 <:+ s := by
  induction s generalizing comment with
  | nil => exact List.suffix_rfl
  | cons c rest ih =>
      rw [readWhile]
      split
      · exact (ih _).trans (List.suffix_cons c rest)
      · split
        · exact (ih _).trans (List.suffix_cons c rest)
        · split
          · exact (ih _).trans (List.suffix_cons c rest)
          · split
            · exact (ih _).trans (List.suffix_cons c rest)
            · exact List.suffix_rfl

theorem reads_readWhile {p : Char → Bool} (hp : p ')' = false) (comment : Bool) :
    Reads loss fun s => some (readWhile p ignoring comment s) where
  suffix h := by
    obtain rfl := congrArg Prod.snd (Option.some.inj h)
    exact readWhile_suffix ignoring p comment _
  agrees s := by
    induction s generalizing comment with
    | nil =>
        cases comment with
        | false =>
            have hblank : isBlank ')' = false := by decide
            have hstop : readWhile p ignoring false anchorTail = ([], anchorTail) := by
              simp [readWhile, anchorTail, hblank, hp]
            rw [List.nil_append, hstop]
            exact .some [] []
        | true =>
            -- A comment that nothing ends goes on through the tail.
            have hcomment : readWhile p ignoring true anchorTail = ([], []) := rfl
            rw [List.nil_append, hcomment]
            exact .of_cut (fun _ _ h => by cases h; exact List.nil_suffix) _
    | cons c rest ih =>
        rw [List.cons_append, readWhile, readWhile]
        split
        · exact ih _
        · split
          · exact ih _
          · split
            · exact ih _
            · split
              · exact (ih false).map (c :: ·)
              · exact .some [] (c :: rest)

/-- The next character and `n` more. -/
def readOneMore? (n : Nat) : List Char → Option (List Char × List Char)
  | [] => none
  | c :: rest => (readExactly? ignoring n rest).map fun found => (c :: found.1, found.2)

theorem reads_readExactly? (n : Nat) : Reads loss (readExactly? ignoring n) := by
  induction n with
  | zero => exact ⟨fun h => by cases h; exact List.suffix_rfl, fun s => .some [] s⟩
  | succ n ih =>
      have hone : Reads loss (readOneMore? ignoring n) :=
        .of_cons rfl (fun _ _ => rfl) fun c => ih.map (c :: ·)
      exact hone.skip ignoring

/-- A code in braces, after the opening one. -/
def readBracedCode? (s : List Char) : Option (Atom × List Char) :=
  (readBraced? ignoring false s).bind fun (digits, rest) =>
    (literalOfHex? false digits).map (·, rest)

/-- A code with a number of digits that its letter says. -/
def readPlainCode? (letter : Char) (s : List Char) : Option (Atom × List Char) :=
  let width := if letter == 'x' then 2 else if letter == 'u' then 4 else 8
  (readExactly? ignoring width s).bind fun (digits, rest) =>
    (literalOfHex? (letter == 'x') digits).map (·, rest)

/-- A code that comes at once. -/
def readCodeHere? (letter : Char) : List Char → Option (Atom × List Char)
  | '\x7b' :: rest => readBracedCode? ignoring rest
  | s => readPlainCode? ignoring letter s

theorem reads_readCode? (letter : Char) : Reads loss (readCode? ignoring letter) := by
  have hbraced : Reads loss (readBracedCode? ignoring) :=
    (reads_readBraced? ignoring false).bind fun digits => .lookup _
  have hplain : Reads loss (readPlainCode? ignoring letter) :=
    (reads_readExactly? ignoring _).bind fun digits => .lookup _
  have hhere : Reads loss (readCodeHere? ignoring letter) := by
    refine .of_mark (show '\x7b' ≠ ')' by decide) (fun rest => rfl) (fun s hs => ?_) hbraced hplain
    unfold readCodeHere?
    split
    · exact absurd rfl hs
    · rfl
  exact hhere.skip ignoring

/-- A property with a name of one character. -/
def readPlainProperty? (negated : Bool) : List Char → Option (Atom × List Char)
  | [] => none
  | c :: rest => if c == '\\' then none else some (.property negated (.named [c]), rest)

/-- A property with a name in braces, after the opening one. -/
def readBracedProperty? (negated : Bool) (s : List Char) : Option (Atom × List Char) :=
  (readBraced? ignoring false s).map fun (name, rest) => (propertyOfName negated name, rest)

/-- A property that comes at once. -/
def readPropertyHere? (negated : Bool) : List Char → Option (Atom × List Char)
  | [] => none
  | '\x7b' :: rest => readBracedProperty? ignoring negated rest
  | c :: rest => if c == '\\' then none else some (.property negated (.named [c]), rest)

theorem reads_readProperty? (negated : Bool) : Reads loss (readProperty? ignoring negated) := by
  have hplain : Reads loss (readPlainProperty? negated) := by
    refine .of_cons rfl (fun c rest => rfl) fun c => ?_
    cases hc : c == '\\' with
    | true => simpa only [readPlainProperty?, hc] using .failed
    | false => simpa only [readPlainProperty?, hc] using .found _
  have hbraced : Reads loss (readBracedProperty? ignoring negated) :=
    (reads_readBraced? ignoring false).map _
  have hhere : Reads loss (readPropertyHere? ignoring negated) := by
    refine .of_mark (show '\x7b' ≠ ')' by decide) (fun rest => rfl) (fun s hs => ?_) hbraced hplain
    unfold readPropertyHere? readPlainProperty?
    split
    · rfl
    · exact absurd rfl hs
    · rfl
  exact hhere.skip ignoring

/-- What is left where braces behind a word boundary are taken for a count: there is nothing in
them. -/
def Stuck (left : List Char) : Prop :=
  ∃ inside, left = '\x7b' :: (inside ++ anchorTail) ∧ skip ignoring inside = []

/-- An atom is read in front of the tail as it is without it, unless what is left is lost, or it is
a word boundary and the tail was looked at for its name. -/
def AtomAgrees (loss : Loss) (whole alone : Option (Atom × List Char)) : Prop :=
  ∀ atom left, whole = some (atom, left) → loss.Holds left ∨
    (∃ rest, left = rest ++ anchorTail ∧ alone = some (atom, rest)) ∨
    atom = .assertion .wordBoundary ∧ Stuck ignoring left

variable {ignoring} in
theorem Agrees.atom {whole alone : Option (Atom × List Char)} (h : Agrees loss whole alone) :
    AtomAgrees ignoring loss whole alone :=
  fun atom left hread => (h atom left hread).imp_right .inl

/-- The end of a word boundary with a name. -/
def closeBoundary? (name : List Char) : List Char → Option (Atom × List Char)
  | '\x7d' :: rest => (boundaryOfName? name).map fun boundary => (.assertion boundary, rest)
  | _ => none

theorem reads_closeBoundary? (name : List Char) : Reads loss (closeBoundary? name) := by
  refine .of_mark (show '\x7d' ≠ ')' by decide)
    (fun rest => by simp [closeBoundary?, Function.comp_def]) (fun s hs => ?_)
    (.lookup ((boundaryOfName? name).map Atom.assertion)) .failed
  unfold closeBoundary?
  split
  · exact absurd rfl hs
  · rfl

theorem reads_named : Reads loss fun inside =>
    (some (readWhile isBoundaryChar ignoring false inside)).bind fun found =>
      closeBoundary? found.1 found.2 :=
  (reads_readWhile ignoring (by decide) false).bind reads_closeBoundary?

/-- Braces belong to a word boundary if they start like a name. -/
theorem readBoundary?_named {inside more : List Char} {c : Char}
    (hinside : skip ignoring inside = c :: more) (hc : isBoundaryChar c = true) :
    readBoundary? ignoring ('\x7b' :: inside) =
      (some (readWhile isBoundaryChar ignoring false inside)).bind fun found =>
        closeBoundary? found.1 found.2 := by
  simp only [readBoundary?, hinside, hc, if_true, Option.bind_some]
  obtain ⟨name, _ | ⟨d, rest⟩⟩ := readWhile isBoundaryChar ignoring false inside
  · rfl
  · by_cases hd : d = '\x7d'
    · rw [hd]
      rfl
    · simp [closeBoundary?, hd]

theorem readBoundary?_count {inside more : List Char} {c : Char}
    (hinside : skip ignoring inside = c :: more) (hc : isBoundaryChar c = false) :
    readBoundary? ignoring ('\x7b' :: inside) =
      some (.assertion .wordBoundary, '\x7b' :: inside) := by
  simp [readBoundary?, hinside, hc]

theorem readBoundary?_open {inside : List Char} (hinside : skip ignoring inside = []) :
    readBoundary? ignoring ('\x7b' :: inside) = none := by
  simp [readBoundary?, hinside]

theorem readBoundary?_other {s : List Char} (hs : s.head? ≠ some '\x7b') :
    readBoundary? ignoring s = some (.assertion .wordBoundary, s) := by
  unfold readBoundary?
  split
  · exact absurd rfl hs
  · rfl

theorem readBoundary?_suffix {s rest : List Char} {atom : Atom}
    (h : readBoundary? ignoring s = some (atom, rest)) : rest <:+ s := by
  by_cases hs : s.head? = some '\x7b'
  · obtain ⟨inside, rfl⟩ := List.head?_eq_some_iff.1 hs
    cases hinside : skip ignoring inside with
    | nil =>
        rw [readBoundary?_open ignoring hinside] at h
        cases h
    | cons c more =>
        cases hc : isBoundaryChar c with
        | true =>
            rw [readBoundary?_named ignoring hinside hc] at h
            have hnamed : Reads Loss.cut _ := reads_named ignoring
            exact (hnamed.suffix h).trans (List.suffix_cons _ inside)
        | false =>
            rw [readBoundary?_count ignoring hinside hc] at h
            cases h
            exact List.suffix_rfl
  · rw [readBoundary?_other ignoring hs] at h
    cases h
    exact List.suffix_rfl

theorem atomAgrees_readBoundary? (s : List Char) : AtomAgrees ignoring loss
    (readBoundary? ignoring (s ++ anchorTail)) (readBoundary? ignoring s) := by
  by_cases hs : s.head? = some '\x7b'
  · obtain ⟨inside, rfl⟩ := List.head?_eq_some_iff.1 hs
    rw [List.cons_append]
    obtain ⟨c, rest, hinside, htail⟩ | ⟨hinside, htail | htail⟩ := skip_append ignoring inside
    · cases hc : isBoundaryChar c with
      | true =>
          rw [readBoundary?_named ignoring htail hc, readBoundary?_named ignoring hinside hc]
          exact ((reads_named ignoring).agrees inside).atom
      | false =>
          rw [readBoundary?_count ignoring htail hc, readBoundary?_count ignoring hinside hc]
          exact (Agrees.some _ ('\x7b' :: inside)).atom
    -- In front of the tail, a brace with only blanks behind it is left to be read as a count.
    · rw [readBoundary?_count ignoring htail (by decide)]
      rintro atom left ⟨rfl, rfl⟩
      exact .inr (.inr ⟨rfl, inside, rfl, hinside⟩)
    · rw [readBoundary?_open ignoring htail]
      exact (Agrees.none _).atom
  · have htail : (s ++ anchorTail).head? ≠ some '\x7b' := by
      cases s with
      | nil => decide
      | cons c rest => exact hs
    rw [readBoundary?_other ignoring hs, readBoundary?_other ignoring htail]
    exact (Agrees.some _ s).atom

/-- What follows a backslash, by its first character. -/
def readEscapeOf? (c : Char) (rest : List Char) : Option (Atom × List Char) :=
  if c == 'x' || c == 'u' || c == 'U' then readCode? ignoring c rest
  else if c == 'p' || c == 'P' then readProperty? ignoring (c == 'P') rest
  else if isEscapable c then some (.literal ⟨c, false⟩, rest)
  else (atomOfLetter? c).map (·, rest)

theorem reads_readEscapeOf? (c : Char) : Reads loss (readEscapeOf? ignoring c) := by
  unfold readEscapeOf?
  cases c == 'x' || c == 'u' || c == 'U' with
  | true => exact reads_readCode? ignoring c
  | false =>
      cases c == 'p' || c == 'P' with
      | true => exact reads_readProperty? ignoring (c == 'P')
      | false =>
          cases isEscapable c with
          | true => exact .found _
          | false => exact .lookup _

theorem readEscape?_cons (c : Char) (rest : List Char) :
    readEscape? ignoring (c :: rest) =
      if c = 'b' then readBoundary? ignoring rest else readEscapeOf? ignoring c rest := by
  by_cases hc : c = 'b'
  · rw [hc]
    rfl
  · simp [readEscape?, readEscapeOf?, hc]

theorem readEscape?_suffix {s rest : List Char} {atom : Atom}
    (h : readEscape? ignoring s = some (atom, rest)) : rest <:+ s := by
  cases s with
  | nil => cases h
  | cons c more =>
      rw [readEscape?_cons] at h
      refine List.IsSuffix.trans ?_ (List.suffix_cons c more)
      split at h
      · exact readBoundary?_suffix ignoring h
      · have hescape : Reads Loss.cut _ := reads_readEscapeOf? ignoring c
        exact hescape.suffix h

theorem atomAgrees_readEscape? (s : List Char) : AtomAgrees ignoring loss
    (readEscape? ignoring (s ++ anchorTail)) (readEscape? ignoring s) := by
  cases s with
  | nil => exact (Agrees.of_cut (fun _ _ h => by cases h; exact List.suffix_rfl) _).atom
  | cons c rest =>
      rw [List.cons_append, readEscape?_cons, readEscape?_cons]
      split
      · exact atomAgrees_readBoundary? ignoring rest
      · exact ((reads_readEscapeOf? ignoring c).agrees rest).atom

end Blanks

end CsvSchema.Pattern
