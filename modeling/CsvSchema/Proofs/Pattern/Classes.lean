import CsvSchema.Pattern.Reader.Class
import CsvSchema.Proofs.Pattern.Tails
import CsvSchema.Proofs.Text.Pieces

/-!
# Bracketed classes in front of a tail

The tail has no bracket that could close a class, so a class that is read ends in front of it and is
read without it too, `reads_readClass?`.
-/

namespace CsvSchema.Pattern

open Text (isBlank splitFirst?)

/-- No closing bracket is left. -/
def Loss.unclosed : Loss where
  Holds left := ']' ∉ left
  of_suffix hsuffix h hmem := h (hsuffix.subset hmem)
  of_cut hcut hmem := by
    have hdollar := hcut.subset hmem
    simp at hdollar

/-- A text with the tail behind the part of it that is left. -/
def withTail {α : Type} (found : α × List Char) : α × List Char := (found.1, found.2 ++ anchorTail)

/-- What the first reader reads ends in front of the tail; only where there is none of it, the
second one reads. -/
theorem Reads.orElse {α β : Type} {loss : Loss} {first : List Char → Option (α × List Char)}
    {second : List Char → Option (β × List Char)}
    (hsuffix : ∀ s {x rest}, first s = some (x, rest) → rest <:+ s)
    (hfirst : ∀ s, first (s ++ anchorTail) = (first s).map withTail) (f : α → β)
    (hsecond : Reads loss second) :
    Reads loss fun s =>
      ((first s).map fun found => (f found.1, found.2)).orElse fun _ => second s where
  suffix {s y rest} h := by
    cases hfound : first s with
    | none =>
        rw [hfound] at h
        exact hsecond.suffix h
    | some found =>
        rw [hfound] at h
        cases h
        exact hsuffix s hfound
  agrees s := by
    rw [hfirst]
    cases first s with
    | none => exact hsecond.agrees s
    | some found => exact .some (f found.1) found.2

section Names

theorem splitFirst?_append (s : List Char) :
    splitFirst? ':' (s ++ anchorTail) = (splitFirst? ':' s).map withTail := by
  induction s with
  | nil => rfl
  | cons c rest ih =>
      rw [List.cons_append, splitFirst?, splitFirst?]
      split
      · rfl
      · rw [ih, Option.map_map, Option.map_map]
        rfl

theorem splitFirst?_suffix {separator : Char} {s name rest : List Char}
    (h : splitFirst? separator s = some (name, rest)) : rest <:+ s := by
  obtain ⟨rfl, -⟩ := Text.splitFirst?_eq_some_iff.1 h
  exact (List.suffix_cons _ _).trans (List.suffix_append _ _)

theorem splitCaret_append (s : List Char) :
    splitCaret (s ++ anchorTail) = withTail (splitCaret s) := by
  cases s with
  | nil => rfl
  | cons c rest =>
      by_cases hc : c = '^'
      · rw [hc]
        rfl
      · simp [splitCaret, withTail, hc]

theorem splitCaret_suffix (s : List Char) : (splitCaret s).2 <:+ s := by
  unfold splitCaret
  split
  · exact List.suffix_cons _ _
  · exact List.suffix_rfl

/-- The name of an ASCII class behind its colon and caret. -/
def readAsciiName? (negated : Bool) (s : List Char) : Option (ClassSet × List Char) :=
  match splitFirst? ':' s with
  | some (name, ']' :: rest) => (AsciiClass.ofName? name).map (.ascii negated ·, rest)
  | _ => none

theorem readAsciiName?_append (negated : Bool) (s : List Char) :
    readAsciiName? negated (s ++ anchorTail) = (readAsciiName? negated s).map withTail := by
  unfold readAsciiName?
  rw [splitFirst?_append]
  rcases splitFirst? ':' s with _ | ⟨name, _ | ⟨c, rest⟩⟩
  · rfl
  · rfl
  · by_cases hc : c = ']'
    · rw [hc]
      simp [withTail, Function.comp_def]
    · simp [withTail, hc]

theorem readAsciiName?_suffix {negated : Bool} {s rest : List Char} {set : ClassSet}
    (h : readAsciiName? negated s = some (set, rest)) : rest <:+ s := by
  unfold readAsciiName? at h
  split at h
  · next name more hname =>
    obtain ⟨cls, -, hset⟩ := Option.map_eq_some_iff.1 h
    cases hset
    exact (List.suffix_cons _ _).trans (splitFirst?_suffix hname)
  · cases h

theorem readAsciiClass?_colon (rest : List Char) : readAsciiClass? (':' :: rest) =
    readAsciiName? (splitCaret rest).1 (splitCaret rest).2 := rfl

/-- The name of an ASCII class does not go on in the tail. -/
theorem readAsciiClass?_append (s : List Char) :
    readAsciiClass? (s ++ anchorTail) = (readAsciiClass? s).map withTail := by
  cases s with
  | nil => rfl
  | cons c rest =>
      by_cases hc : c = ':'
      · rw [hc, List.cons_append, readAsciiClass?_colon, readAsciiClass?_colon, splitCaret_append]
        exact readAsciiName?_append _ _
      · simp [readAsciiClass?, hc]

theorem readAsciiClass?_suffix {s rest : List Char} {set : ClassSet}
    (h : readAsciiClass? s = some (set, rest)) : rest <:+ s := by
  cases s with
  | nil => cases h
  | cons c more =>
      by_cases hc : c = ':'
      · rw [hc, readAsciiClass?_colon] at h
        exact ((readAsciiName?_suffix h).trans (splitCaret_suffix more)).trans
          (List.suffix_cons c more)
      · simp [readAsciiClass?, hc] at h

theorem readOperation?_append (s : List Char) :
    readOperation? (s ++ anchorTail) = (readOperation? s).map withTail := by
  rcases s with _ | ⟨c, _ | ⟨d, rest⟩⟩
  · rfl
  · simp [readOperation?, anchorTail]
  · rw [List.cons_append, List.cons_append]
    unfold readOperation?
    split <;> simp_all [withTail]

theorem readOperation?_suffix {c : Char} {s rest : List Char} {op : SetOperation}
    (h : readOperation? (c :: s) = some (op, rest)) : rest <:+ s := by
  unfold readOperation? at h
  split at h <;> cases h <;> (rename_i heq; cases heq; exact List.suffix_cons _ _)

end Names

section Starts

variable {loss : Loss} (ignoring : Bool)

theorem reads_splitCaret : Reads loss fun s => some (splitCaret s) where
  suffix h := by
    obtain rfl := congrArg Prod.snd (Option.some.inj h)
    exact splitCaret_suffix _
  agrees s := by
    rw [splitCaret_append]
    exact .some _ _

/-- The bracket that is a character because it comes first. -/
def readFirstBracket (negated : Bool) (hyphens : List Char) (s : List Char) :
    (Bool × List ClassSet) × List Char :=
  match hyphens, s with
  | [], ']' :: rest => ((negated, [.literal ⟨']', false⟩]), rest)
  | _, _ => ((negated, hyphens.map fun c => .literal ⟨c, false⟩), s)

theorem reads_readFirstBracket (negated : Bool) (hyphens : List Char) :
    Reads loss fun s => some (readFirstBracket negated hyphens s) := by
  cases hyphens with
  | nil =>
      refine .of_mark (show ']' ≠ ')' by decide) (fun rest => rfl) (fun s hs => ?_) (.found _)
        (.found (negated, []))
      unfold readFirstBracket
      split
      · exact absurd rfl hs
      · rfl
  | cons c more => exact .found (negated, (c :: more).map fun c => ClassSet.literal ⟨c, false⟩)

/-- The start of a class, with what is read behind it. -/
def readStart (s : List Char) : (Bool × List ClassSet) × List Char :=
  let start := readClassStart ignoring s
  ((start.1, start.2.1), start.2.2)

theorem readStart_eq (s : List Char) :
    let caret := splitCaret (skip ignoring s)
    let hyphens := readWhile (· == '-') ignoring false caret.2
    readStart ignoring s = readFirstBracket caret.1 hyphens.1 hyphens.2 := by
  simp only [readStart, readClassStart]
  obtain ⟨_ | ⟨c, more⟩, rest⟩ :=
    readWhile (· == '-') ignoring false (splitCaret (skip ignoring s)).2
  · rcases rest with _ | ⟨c, rest⟩
    · rfl
    · by_cases hc : c = ']'
      · rw [hc]
        rfl
      · simp [readFirstBracket, hc]
  · rfl

theorem reads_readStart : Reads loss fun s => some (readStart ignoring s) := by
  have hhyphens : Reads loss fun s => some (readWhile (· == '-') ignoring false s) :=
    reads_readWhile ignoring (by decide) false
  have hstart : Reads loss fun s => (some (splitCaret s)).bind fun caret =>
      (some (readWhile (· == '-') ignoring false caret.2)).bind fun found =>
        some (readFirstBracket caret.1 found.1 found.2) := by
    refine reads_splitCaret.bind fun negated => ?_
    change Reads loss fun rest =>
      (some (readWhile (· == '-') ignoring false rest)).bind fun found =>
      some (readFirstBracket negated found.1 found.2)
    exact hhyphens.bind (reads_readFirstBracket negated)
  simp only [readStart_eq]
  exact hstart.skip ignoring

end Starts

section Items

variable (ignoring : Bool)

theorem peekIgnoring?_append (comment : Bool) (s : List Char) :
    (∃ c, peekIgnoring? comment s = some c ∧ peekIgnoring? comment (s ++ anchorTail) = some c) ∨
      peekIgnoring? comment s = none ∧ peekIgnoring? comment (s ++ anchorTail) = some ')' := by
  induction s generalizing comment with
  | nil => exact .inr ⟨rfl, by cases comment <;> decide⟩
  | cons c rest ih =>
      rw [List.cons_append, peekIgnoring?, peekIgnoring?]
      split
      · exact ih _
      · split
        · exact ih _
        · exact .inl ⟨c, rfl, rfl⟩

/-- Whether a hyphen in front of a text does not make a range. -/
def endsRange (s : List Char) : Bool := peek? ignoring s == some ']' || peek? ignoring s == some '-'

theorem endsRange_of_head {s : List Char} {next : Option Char} (hpeek : peek? ignoring s = next)
    (hbracket : next ≠ some ']') (hhyphen : next ≠ some '-') : endsRange ignoring s = false := by
  simp [endsRange, hpeek, hbracket, hhyphen]

/-- Where only blanks and comments are left, neither a bracket nor a hyphen comes first. -/
theorem head?_of_peekIgnoring? {s : List Char} (h : peekIgnoring? false s = none) :
    s.head? ≠ some ']' ∧ s.head? ≠ some '-' := by
  cases s with
  | nil => simp
  | cons c rest =>
      constructor
      · rintro hc
        obtain rfl := Option.some.inj hc
        cases h
      · rintro hc
        obtain rfl := Option.some.inj hc
        cases h

theorem endsRange_append (s : List Char) :
    endsRange ignoring (s ++ anchorTail) = endsRange ignoring s := by
  cases ignoring with
  | false => cases s <;> rfl
  | true =>
      obtain ⟨c, hs, htail⟩ | ⟨hs, htail⟩ := peekIgnoring?_append false s
      · simp [endsRange, peek?, hs, htail]
      · obtain ⟨hbracket, hhyphen⟩ := head?_of_peekIgnoring? hs
        have halone : peek? true s = s.head? := by simp [peek?, hs]
        rw [endsRange_of_head true halone hbracket hhyphen]
        have hwhole : peek? true (s ++ anchorTail) = some ')' := by simp [peek?, htail]
        exact endsRange_of_head true hwhole (by decide) (by decide)

theorem readClassAtom?_suffix {s rest : List Char} {atom : Atom}
    (h : readClassAtom? ignoring s = some (atom, rest)) :
    ∃ c more, s = c :: more ∧ rest <:+ more := by
  unfold readClassAtom? at h
  split at h
  · cases h
  · exact ⟨_, _, rfl, readEscape?_suffix ignoring h⟩
  · cases h
    exact ⟨_, _, rfl, List.suffix_rfl⟩

theorem atomAgrees_readClassAtom? {loss : Loss} (s : List Char) : AtomAgrees ignoring loss
    (readClassAtom? ignoring (s ++ anchorTail)) (readClassAtom? ignoring s) := by
  cases s with
  | nil => exact (Agrees.of_cut (fun _ _ h => by cases h; exact List.suffix_rfl) _).atom
  | cons c rest =>
      by_cases hc : c = '\\'
      · rw [hc]
        exact atomAgrees_readEscape? ignoring rest
      · have hread : ∀ s, readClassAtom? ignoring (c :: s) = some (.literal ⟨c, false⟩, s) := by
          intro s
          simp [readClassAtom?]
        rw [List.cons_append, hread, hread]
        exact (Agrees.some _ rest).atom

/-- The end of a range, behind its hyphen. -/
def readRangeEnd? (first : Atom) (s : List Char) : Option (ClassSet × List Char) :=
  (readClassAtom? ignoring s).bind fun found => (rangeOf? first found.1).map (·, found.2)

theorem reads_readRangeEnd? {loss : Loss} (first : Atom) :
    Reads loss (readRangeEnd? ignoring first) where
  suffix h := by
    obtain ⟨⟨last, rest⟩, hlast, hrange⟩ := Option.bind_eq_some_iff.1 h
    obtain ⟨set, -, hset⟩ := Option.map_eq_some_iff.1 hrange
    cases hset
    obtain ⟨c, more, rfl, hrest⟩ := readClassAtom?_suffix ignoring hlast
    exact hrest.trans (List.suffix_cons c more)
  agrees s := by
    intro set left h
    obtain ⟨⟨last, middle⟩, hlast, hrange⟩ := Option.bind_eq_some_iff.1 h
    obtain ⟨range, hrangeOf, hset⟩ := Option.map_eq_some_iff.1 hrange
    cases hset
    rcases atomAgrees_readClassAtom? ignoring s last _ hlast with
      hlost | ⟨rest, rfl, halone⟩ | ⟨rfl, -⟩
    · exact .inl hlost
    · refine .inr ⟨rest, rfl, ?_⟩
      rw [readRangeEnd?, halone, Option.bind_some, hrangeOf]
      rfl
    -- A test of a place is no end of a range.
    · cases first <;> cases hrangeOf

/-- What stands behind an atom of a class, behind blanks: the rest of a range, or another item. -/
def readItemEnd? (first : Atom) : List Char → Option (ClassSet × List Char)
  | [] => none
  | '-' :: rest =>
      if endsRange ignoring rest then first.classSet?.map (·, '-' :: rest)
      else readRangeEnd? ignoring first (skip ignoring rest)
  | rest => first.classSet?.map (·, rest)

theorem readItemEnd?_hyphen (first : Atom) (rest : List Char) :
    readItemEnd? ignoring first ('-' :: rest) =
      if endsRange ignoring rest then first.classSet?.map (·, '-' :: rest)
      else readRangeEnd? ignoring first (skip ignoring rest) := rfl

theorem readItemEnd?_cons (first : Atom) {c : Char} (hc : c ≠ '-') (rest : List Char) :
    readItemEnd? ignoring first (c :: rest) = first.classSet?.map (·, c :: rest) := by
  simp [readItemEnd?, hc]

theorem reads_readItemEnd? (first : Atom) : Reads Loss.unclosed (readItemEnd? ignoring first) where
  suffix {s set rest} h := by
    have hlookup : Reads Loss.unclosed _ := Reads.lookup first.classSet?
    rcases s with _ | ⟨c, more⟩
    · cases h
    · by_cases hc : c = '-'
      · rw [hc, readItemEnd?_hyphen] at h
        split at h
        · rw [hc]
          exact hlookup.suffix h
        · have hrange : Reads Loss.unclosed _ := (reads_readRangeEnd? ignoring first).skip ignoring
          exact (hrange.suffix h).trans (List.suffix_cons c more)
      · rw [readItemEnd?_cons ignoring first hc] at h
        exact hlookup.suffix h
  agrees s := by
    rcases s with _ | ⟨c, rest⟩
    · intro set left h
      obtain ⟨found, -, hfound⟩ := Option.map_eq_some_iff.1 h
      cases hfound
      exact .inl (by decide : ']' ∉ anchorTail)
    · by_cases hc : c = '-'
      · rw [hc, List.cons_append, readItemEnd?_hyphen, readItemEnd?_hyphen, endsRange_append]
        -- A hyphen that ends no range is an item of its own, and is left to be read.
        split
        · exact (Reads.lookup first.classSet?).agrees ('-' :: rest)
        · exact ((reads_readRangeEnd? ignoring first).skip ignoring).agrees rest
      · rw [List.cons_append, readItemEnd?_cons ignoring first hc,
          readItemEnd?_cons ignoring first hc]
        exact (Reads.lookup first.classSet?).agrees (c :: rest)

theorem readClassItem?_eq (s : List Char) : readClassItem? ignoring s =
    (readClassAtom? ignoring s).bind fun found =>
      readItemEnd? ignoring found.1 (skip ignoring found.2) := rfl

/-- An item takes a character. -/
theorem readClassItem?_suffix {c : Char} {s rest : List Char} {set : ClassSet}
    (h : readClassItem? ignoring (c :: s) = some (set, rest)) : rest <:+ s := by
  rw [readClassItem?_eq] at h
  obtain ⟨⟨first, middle⟩, hfirst, hend⟩ := Option.bind_eq_some_iff.1 h
  obtain ⟨d, more, heq, hmiddle⟩ := readClassAtom?_suffix ignoring hfirst
  cases heq
  exact (((reads_readItemEnd? ignoring first).skip ignoring).suffix hend).trans hmiddle

theorem agrees_readClassItem? (s : List Char) : Agrees Loss.unclosed
    (readClassItem? ignoring (s ++ anchorTail)) (readClassItem? ignoring s) := by
  rw [readClassItem?_eq, readClassItem?_eq]
  intro set left h
  obtain ⟨⟨first, middle⟩, hfirst, hend⟩ := Option.bind_eq_some_iff.1 h
  have hitem : Reads Loss.unclosed _ := (reads_readItemEnd? ignoring first).skip ignoring
  rcases atomAgrees_readClassAtom? ignoring s first middle hfirst with
    hlost | ⟨rest, rfl, halone⟩ | ⟨rfl, inside, rfl, -⟩
  · exact .inl (Loss.unclosed.of_suffix (hitem.suffix hend) hlost)
  · rw [halone]
    exact hitem.agrees rest set left hend
  -- A test of a place is no item of a class.
  · have hskip : skip ignoring ('\x7b' :: (inside ++ anchorTail)) =
        '\x7b' :: (inside ++ anchorTail) := by
      cases ignoring <;> rfl
    simp only [hskip, readItemEnd?_cons ignoring _ (show '\x7b' ≠ '-' by decide)] at hend
    cases hend

end Items

section Rounds

variable (ignoring : Bool) (items : List ClassSet) (stack : List ClassFrame)

/-- What a round inside a class comes to: the outermost class is closed, or reading goes on with
other items and frames. -/
inductive ClassRound
  | closed (negated : Bool) (set : ClassSet)
  | goesOn (items : List ClassSet) (stack : List ClassFrame)

/-- A round behind an opening bracket: a named class, or the start of another class. -/
def readOpening? (rest : List Char) : Option (ClassRound × List Char) :=
  ((readAsciiClass? rest).map fun found => (.goesOn (found.1 :: items) stack, found.2)).orElse
    fun _ => (some (readStart ignoring rest)).map fun found =>
      (.goesOn found.1.2.reverse (.opened items found.1.1 :: stack), found.2)

/-- What a closing bracket does, if there is a class to close. -/
def closing? : Option ClassRound :=
  match popOperand (.ofUnion items.reverse) stack with
  | (set, [.opened _ negated]) => some (.closed negated set)
  | (set, .opened before negated :: stack) =>
      some (.goesOn (.bracketed negated set :: before) stack)
  | _ => none

/-- A round that begins with a character which is no bracket: an operation, or an item. -/
def readMember? (c : Char) (rest : List Char) : Option (ClassRound × List Char) :=
  ((readOperation? (c :: rest)).map fun found =>
    (.goesOn [] (.operand found.1 (popOperand (.ofUnion items.reverse) stack).1 ::
      (popOperand (.ofUnion items.reverse) stack).2), found.2)).orElse
    fun _ => (readClassItem? ignoring (c :: rest)).map fun found =>
      (.goesOn (found.1 :: items) stack, found.2)

/-- A round that begins with a character. -/
def readBehind? (c : Char) (rest : List Char) : Option (ClassRound × List Char) :=
  if c = '[' then readOpening? ignoring items stack rest
  else if c = ']' then (closing? items stack).map (·, rest)
  else readMember? ignoring items stack c rest

/-- A round that begins at once. -/
def readRoundHere? : List Char → Option (ClassRound × List Char)
  | [] => none
  | c :: rest => readBehind? ignoring items stack c rest

/-- A round of reading a class. -/
def readRound? (s : List Char) : Option (ClassRound × List Char) :=
  readRoundHere? ignoring items stack (skip ignoring s)

variable {items stack}

/-- Reading the rest of a class is a round, and then the rest of the class unless it is closed. -/
theorem readClassFrom?_succ (fuel : Nat) (s : List Char) :
    readClassFrom? ignoring (fuel + 1) items stack s =
      (readRound? ignoring items stack s).bind fun found =>
        match found with
        | (.closed negated set, rest) => some (negated, set, rest)
        | (.goesOn items stack, rest) => readClassFrom? ignoring fuel items stack rest := by
  simp only [readClassFrom?, readRound?]
  split
  · rename_i hs
    rw [hs]
    rfl
  · rename_i rest hs
    rw [hs, readRoundHere?, readBehind?, if_pos rfl, readOpening?]
    cases readAsciiClass? rest <;> rfl
  · rename_i rest hs
    rw [hs, readRoundHere?, readBehind?, if_neg (by decide), if_pos rfl, closing?]
    rcases popOperand (.ofUnion items.reverse) stack with ⟨set, _ | ⟨_ | _, _ | _⟩⟩ <;> rfl
  · rename_i hnil hopen hclose
    obtain ⟨c, rest, hs⟩ := List.exists_cons_of_ne_nil hnil
    rw [hs] at hopen hclose ⊢
    rw [readRoundHere?, readBehind?, if_neg fun heq => hopen rest (by rw [heq]),
      if_neg fun heq => hclose rest (by rw [heq]), readMember?]
    cases readOperation? (c :: rest) with
    | some found => rfl
    | none => cases readClassItem? ignoring (c :: rest) <;> rfl

theorem reads_readOpening? : Reads Loss.unclosed (readOpening? ignoring items stack) := by
  have hstart : Reads Loss.unclosed fun rest => some (readStart ignoring rest) :=
    reads_readStart ignoring
  exact .orElse (fun _ => readAsciiClass?_suffix) readAsciiClass?_append
    (fun set => ClassRound.goesOn (set :: items) stack)
    (hstart.map fun start => ClassRound.goesOn start.2.reverse (.opened items start.1 :: stack))

theorem reads_readMember? (c : Char) :
    Reads Loss.unclosed (readMember? ignoring items stack c) := by
  have hitem : Reads Loss.unclosed fun rest => readClassItem? ignoring (c :: rest) :=
    ⟨readClassItem?_suffix ignoring, fun s => agrees_readClassItem? ignoring (c :: s)⟩
  exact .orElse (fun _ => readOperation?_suffix) (fun s => readOperation?_append (c :: s))
    (fun op => ClassRound.goesOn [] (.operand op (popOperand (.ofUnion items.reverse) stack).1 ::
      (popOperand (.ofUnion items.reverse) stack).2))
    (hitem.map fun set => ClassRound.goesOn (set :: items) stack)

theorem reads_readBehind? (c : Char) :
    Reads Loss.unclosed (readBehind? ignoring items stack c) := by
  unfold readBehind?
  split
  · exact reads_readOpening? ignoring
  · split
    · exact .lookup _
    · exact reads_readMember? ignoring c

theorem reads_readRound? : Reads Loss.unclosed (readRound? ignoring items stack) :=
  (Reads.of_cons rfl (fun _ _ => rfl) (reads_readBehind? ignoring)).skip ignoring

/-- A round takes a character. -/
theorem length_lt_of_readRound? {round : ClassRound} {s rest : List Char}
    (h : readRound? ignoring items stack s = some (round, rest)) : rest.length < s.length := by
  have hskip := (skip_suffix ignoring s).length_le
  unfold readRound? at h
  cases hs : skip ignoring s with
  | nil =>
      rw [hs] at h
      cases h
  | cons c more =>
      rw [hs] at h hskip
      have hmore := ((reads_readBehind? ignoring c).suffix h).length_le
      rw [List.length_cons] at hskip
      omega

/-- Only a closing bracket closes the outermost class. -/
theorem readRound?_eq_closed_iff {negated : Bool} {set : ClassSet} {s rest : List Char} :
    readRound? ignoring items stack s = some (.closed negated set, rest) ↔
      skip ignoring s = ']' :: rest ∧ closing? items stack = some (.closed negated set) := by
  unfold readRound?
  cases skip ignoring s with
  | nil => simp [readRoundHere?]
  | cons c more =>
      rw [readRoundHere?, readBehind?, List.cons.injEq]
      split
      · rename_i hopen
        cases hname : readAsciiClass? more <;> simp [readOpening?, hname, hopen]
      · split
        · rename_i hclose
          simp [hclose, and_comm]
        · rename_i hclose
          cases hop : readOperation? (c :: more) <;> simp [readMember?, hop, hclose]

end Rounds

section Classes

variable (ignoring : Bool)

/-- Without a closing bracket, no class is read. -/
theorem readClassFrom?_ne_some {fuel : Nat} {items : List ClassSet} {stack : List ClassFrame}
    {s : List Char} {found : Bool × ClassSet × List Char} (h : Loss.unclosed.Holds s) :
    readClassFrom? ignoring fuel items stack s ≠ some found := by
  induction fuel generalizing items stack s with
  | zero => exact nofun
  | succ fuel ih =>
      rw [readClassFrom?_succ]
      intro hfound
      obtain ⟨⟨_ | _, rest⟩, hround, hrest⟩ := Option.bind_eq_some_iff.1 hfound
      · obtain ⟨hskip, -⟩ := (readRound?_eq_closed_iff ignoring).1 hround
        exact h ((skip_suffix ignoring s).subset (hskip ▸ List.mem_cons_self))
      · exact ih (Loss.unclosed.of_suffix ((reads_readRound? ignoring).suffix hround) h) hrest

theorem readClassFrom?_suffix {fuel : Nat} {items : List ClassSet} {stack : List ClassFrame}
    {s rest : List Char} {negated : Bool} {set : ClassSet}
    (h : readClassFrom? ignoring fuel items stack s = some (negated, set, rest)) : rest <:+ s := by
  induction fuel generalizing items stack s with
  | zero => cases h
  | succ fuel ih =>
      rw [readClassFrom?_succ] at h
      obtain ⟨⟨_ | _, more⟩, hround, hrest⟩ := Option.bind_eq_some_iff.1 h
      · cases hrest
        exact (reads_readRound? ignoring).suffix hround
      · exact (ih hrest).trans ((reads_readRound? ignoring).suffix hround)

/-- A class that is read in front of the tail ends in front of it. -/
theorem readClassFrom?_append {fuel enough : Nat} {items : List ClassSet} {stack : List ClassFrame}
    {s left : List Char} {negated : Bool} {set : ClassSet} (henough : s.length < enough)
    (h : readClassFrom? ignoring fuel items stack (s ++ anchorTail) = some (negated, set, left)) :
    ∃ rest, left = rest ++ anchorTail ∧
      readClassFrom? ignoring enough items stack s = some (negated, set, rest) := by
  induction fuel generalizing enough items stack s with
  | zero => cases h
  | succ fuel ih =>
      obtain ⟨enough, rfl⟩ := Nat.exists_eq_succ_of_ne_zero (Nat.ne_zero_of_lt henough)
      rw [readClassFrom?_succ] at h ⊢
      obtain ⟨⟨_ | ⟨items', stack'⟩, more⟩, hround, hrest⟩ := Option.bind_eq_some_iff.1 h
      · -- The bracket that closes the class is not in the tail.
        cases hrest
        obtain ⟨hskip, hclosing⟩ := (readRound?_eq_closed_iff ignoring).1 hround
        obtain ⟨c, rest, hs, htail⟩ | ⟨-, htail | htail⟩ := skip_append ignoring s
        · cases htail.symm.trans hskip
          have halone := (readRound?_eq_closed_iff ignoring).2 ⟨hs, hclosing⟩
          exact ⟨rest, rfl, by rw [halone]; rfl⟩
        · cases htail.symm.trans hskip
        · cases htail.symm.trans hskip
      · rcases (reads_readRound? ignoring).agrees s _ _ hround with hlost | ⟨rest, rfl, halone⟩
        · exact absurd hrest (readClassFrom?_ne_some ignoring hlost)
        · have hshorter := length_lt_of_readRound? ignoring halone
          rw [halone]
          exact ih (by omega) hrest

theorem readClass?_eq (s : List Char) : readClass? ignoring s =
    (readClassFrom? ignoring ((readStart ignoring s).2.length + 1)
      (readStart ignoring s).1.2.reverse [.opened [] (readStart ignoring s).1.1]
      (readStart ignoring s).2).map fun found => (.bracketed found.1 found.2.1, found.2.2) := rfl

theorem reads_readClass? {loss : Loss} : Reads loss (readClass? ignoring) where
  suffix {s e rest} h := by
    rw [readClass?_eq] at h
    obtain ⟨⟨negated, set, rest⟩, hread, hfound⟩ := Option.map_eq_some_iff.1 h
    cases hfound
    have hstart : Reads Loss.unclosed _ := reads_readStart ignoring
    exact (readClassFrom?_suffix ignoring hread).trans (hstart.suffix rfl)
  agrees s := by
    intro e left h
    rw [readClass?_eq] at h
    obtain ⟨⟨negated, set, rest⟩, hread, hfound⟩ := Option.map_eq_some_iff.1 h
    cases hfound
    have hstart : Reads Loss.unclosed _ := reads_readStart ignoring
    generalize hwhole : readStart ignoring (s ++ anchorTail) = whole at hread
    obtain ⟨start, middle⟩ := whole
    rcases hstart.agrees s start middle (congrArg some hwhole) with hlost | ⟨more, rfl, halone⟩
    · exact absurd hread (readClassFrom?_ne_some ignoring hlost)
    · obtain ⟨rest, rfl, hrest⟩ :=
        readClassFrom?_append ignoring (Nat.lt_succ_self more.length) hread
      have hfound : readStart ignoring s = (start, more) := Option.some.inj halone
      refine .inr ⟨rest, rfl, ?_⟩
      simp only [readClass?_eq, hfound]
      rw [hrest]
      rfl

end Classes

end CsvSchema.Pattern
