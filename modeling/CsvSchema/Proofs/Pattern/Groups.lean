import CsvSchema.Proofs.Pattern.Tails

/-!
# Groups and counts in front of a tail

The start of a group and a count are read in front of the tail as they are without it, unless they
take a part of it.
-/

namespace CsvSchema.Pattern

open Text (isBlank dropStart?)

variable {loss : Loss}

section Starts

theorem isPrefixOf_append {mark : List Char} (hmark : ')' ∉ mark) (s : List Char) :
    mark.isPrefixOf (s ++ anchorTail) = mark.isPrefixOf s := by
  induction mark generalizing s with
  | nil => simp
  | cons c rest ih =>
      rw [List.mem_cons, not_or] at hmark
      cases s with
      | nil => simp [List.isPrefixOf, anchorTail, Ne.symm hmark.1]
      | cons d more => simp [List.isPrefixOf, ih hmark.2 more]

theorem looksAround_append (s : List Char) : looksAround (s ++ anchorTail) = looksAround s := by
  have hahead : ')' ∉ "?=".toList ∧ ')' ∉ "?!".toList := by decide
  have hbehind : ')' ∉ "?<=".toList ∧ ')' ∉ "?<!".toList := by decide
  simp only [looksAround, List.any_cons, List.any_nil, isPrefixOf_append hahead.1,
    isPrefixOf_append hahead.2, isPrefixOf_append hbehind.1, isPrefixOf_append hbehind.2]

theorem dropStart?_append {mark : List Char} (hmark : ')' ∉ mark) (s : List Char) :
    dropStart? mark (s ++ anchorTail) = (dropStart? mark s).map (· ++ anchorTail) := by
  induction mark generalizing s with
  | nil => rfl
  | cons c rest ih =>
      rw [List.mem_cons, not_or] at hmark
      cases s with
      | nil => simp [anchorTail, dropStart?, Ne.symm hmark.1]
      | cons d more =>
          rw [List.cons_append, dropStart?, dropStart?]
          split
          · exact ih hmark.2 more
          · rfl

theorem dropStart?_suffix {mark s rest : List Char} (h : dropStart? mark s = some rest) :
    rest <:+ s := by
  induction mark generalizing s with
  | nil =>
      cases h
      exact List.suffix_rfl
  | cons c more ih =>
      cases s with
      | nil => cases h
      | cons d others =>
          rw [dropStart?] at h
          split at h
          · exact (ih h).trans (List.suffix_cons d others)
          · cases h

end Starts

section Flags

/-- Flags and what ends them, as they are read. -/
def readSettings? (negated dangling : Bool) (settings : List FlagSetting) (s : List Char) :
    Option ((List FlagSetting × Char) × List Char) :=
  (readFlags? negated dangling settings s).map fun found => ((found.1, found.2.1), found.2.2)

theorem readFlags?_suffix {negated dangling : Bool} {settings found : List FlagSetting}
    {stop : Char} {s rest : List Char}
    (h : readFlags? negated dangling settings s = some (found, stop, rest)) : rest <:+ s := by
  induction s generalizing negated dangling settings with
  | nil => cases h
  | cons c more ih =>
      refine List.IsSuffix.trans ?_ (List.suffix_cons c more)
      rw [readFlags?] at h
      split at h
      · split at h
        · cases h
        · cases h
          exact List.suffix_rfl
      · split at h
        · split at h
          · cases h
          · exact ih h
        · split at h
          · cases h
          · split at h
            · cases h
            · exact ih h

theorem reads_readSettings? (negated dangling : Bool) (settings : List FlagSetting) :
    Reads loss (readSettings? negated dangling settings) where
  suffix {s found rest} h := by
    obtain ⟨⟨settings, stop, rest⟩, hread, hfound⟩ := Option.map_eq_some_iff.1 h
    cases hfound
    exact readFlags?_suffix hread
  agrees s := by
    induction s generalizing negated dangling settings with
    | nil =>
        -- The closing parenthesis of the tail ends the flags.
        refine .of_cut (fun found left h => ?_) _
        obtain ⟨⟨settings, stop, rest⟩, hread, hfound⟩ := Option.map_eq_some_iff.1 h
        cases hfound
        cases dangling with
        | true => cases hread
        | false => cases hread; exact List.suffix_rfl
    | cons c rest ih =>
        rw [List.cons_append, readSettings?, readSettings?, readFlags?, readFlags?]
        split
        · split
          · exact .none _
          · exact .some (settings, c) rest
        · split
          · split
            · exact .none _
            · exact ih _ _ _
          · split
            · exact .none _
            · split
              · exact .none _
              · exact ih _ _ _

theorem readName?_suffix {first : Bool} {s found rest : List Char}
    (h : readName? first s = some (found, rest)) : rest <:+ s := by
  induction s generalizing first found with
  | nil => cases h
  | cons c more ih =>
      refine List.IsSuffix.trans ?_ (List.suffix_cons c more)
      rw [readName?] at h
      split at h
      · split at h
        · cases h
        · cases h
          exact List.suffix_rfl
      · split at h
        · obtain ⟨⟨found, rest⟩, hmore, hcons⟩ := Option.map_eq_some_iff.1 h
          cases hcons
          exact ih hmore
        · cases h

theorem reads_readName? (first : Bool) : Reads loss (readName? first) where
  suffix := readName?_suffix
  agrees s := by
    induction s generalizing first with
    | nil =>
        -- Nothing in the tail ends a name.
        have hnone : readName? first anchorTail = none := by simp [readName?, anchorTail]
        rw [List.nil_append, hnone]
        exact .none _
    | cons c rest ih =>
        rw [List.cons_append, readName?, readName?]
        split
        · split
          · exact .none _
          · exact .some [] rest
        · split
          · exact (ih false).map (c :: ·)
          · exact .none _

/-- The start of a group that has no name. -/
def readUnnamedStart? : List Char → Option (GroupStart × List Char)
  | '?' :: rest =>
      (readSettings? false false [] rest).bind fun (found, rest) =>
        (if found.2 == ':' then some (GroupStart.group none false found.1)
        else if found.1.isEmpty then none else some (.settings found.1)).map (·, rest)
  | s => some (.group none true [], s)

theorem reads_readUnnamedStart? : Reads loss readUnnamedStart? := by
  have hsettings : Reads loss fun rest => (readSettings? false false [] rest).bind fun found =>
      (if found.1.2 == ':' then some (GroupStart.group none false found.1.1)
      else if found.1.1.isEmpty then none else some (.settings found.1.1)).map (·, found.2) := by
    refine (reads_readSettings? false false []).bind fun found => ?_
    exact .lookup (if found.2 == ':' then some (GroupStart.group none false found.1)
      else if found.1.isEmpty then none else some (.settings found.1))
  refine .of_mark (show '?' ≠ ')' by decide) (fun rest => rfl) (fun s hs => ?_) hsettings
    (.found (GroupStart.group none true []))
  unfold readUnnamedStart?
  split
  · exact absurd rfl hs
  · rfl

theorem readUnnamedStart?_eq (s : List Char) : readUnnamedStart? s =
    match s with
    | '?' :: rest =>
        (readFlags? false false [] rest).bind fun (settings, stop, rest) =>
          if stop == ':' then some (.group none false settings, rest)
          else if settings.isEmpty then none
          else some (.settings settings, rest)
    | _ => some (.group none true [], s) := by
  unfold readUnnamedStart?
  split
  · next rest =>
    simp only [readSettings?]
    cases readFlags? false false [] rest with
    | none => rfl
    | some found =>
        obtain ⟨settings, stop, more⟩ := found
        simp only [Option.map_some, Option.bind_some]
        cases stop == ':' with
        | true => rfl
        | false => cases settings.isEmpty <;> rfl
  · rfl

/-- What stands between the start of a group with a name and the name. -/
def afterName? (s : List Char) : Option (List Char) :=
  (dropStart? "?P<".toList s).orElse fun _ => dropStart? "?<".toList s

theorem afterName?_append (s : List Char) :
    afterName? (s ++ anchorTail) = (afterName? s).map (· ++ anchorTail) := by
  have hmarks : ')' ∉ "?P<".toList ∧ ')' ∉ "?<".toList := by decide
  rw [afterName?, afterName?, dropStart?_append hmarks.1, dropStart?_append hmarks.2]
  cases dropStart? "?P<".toList s <;> rfl

theorem afterName?_suffix {s rest : List Char} (h : afterName? s = some rest) : rest <:+ s := by
  unfold afterName? at h
  cases hlong : dropStart? "?P<".toList s with
  | none =>
      rw [hlong] at h
      exact dropStart?_suffix h
  | some more =>
      rw [hlong] at h
      cases h
      exact dropStart?_suffix hlong

/-- The rest of a group with a name, from the name on. -/
def readNamedStart? (s : List Char) : Option (GroupStart × List Char) :=
  (readName? true s).map fun (name, rest) => (.group (some name) true [], rest)

/-- The start of a group that comes at once. -/
def readStartHere? (s : List Char) : Option (GroupStart × List Char) :=
  if looksAround s then none
  else
    match afterName? s with
    | some rest => readNamedStart? rest
    | none => readUnnamedStart? s

theorem reads_readStartHere? : Reads loss readStartHere? := by
  have hnamed : Reads loss readNamedStart? :=
    (reads_readName? true).map fun name => GroupStart.group (some name) true []
  have hunnamed : Reads loss readUnnamedStart? := reads_readUnnamedStart?
  constructor
  · intro s found rest h
    unfold readStartHere? at h
    split at h
    · cases h
    · split at h
      · next more hname => exact (hnamed.suffix h).trans (afterName?_suffix hname)
      · exact hunnamed.suffix h
  · intro s
    simp only [readStartHere?, looksAround_append, afterName?_append]
    split
    · exact .none _
    · cases afterName? s with
      | some rest => exact hnamed.agrees rest
      | none => exact hunnamed.agrees s

theorem readGroupStart?_eq (ignoring : Bool) (s : List Char) :
    readGroupStart? ignoring s = readStartHere? (skip ignoring s) := by
  simp only [readGroupStart?, readStartHere?, afterName?]
  generalize skip ignoring s = text
  cases looksAround text with
  | true => rfl
  | false =>
      cases ((dropStart? "?P<".toList text).orElse fun _ => dropStart? "?<".toList text) with
      | some rest => rfl
      | none => exact (readUnnamedStart?_eq text).symm

theorem reads_readGroupStart? (ignoring : Bool) : Reads loss (readGroupStart? ignoring) := by
  rw [funext (readGroupStart?_eq ignoring)]
  exact reads_readStartHere?.skip ignoring

end Flags

section Counts

variable (ignoring : Bool)

theorem dropWhile_append (s : List Char) :
    (s ++ anchorTail).dropWhile isBlank = s.dropWhile isBlank ++ anchorTail := by
  induction s with
  | nil =>
      have hblank : isBlank ')' = false := by decide
      simp [anchorTail, hblank]
  | cons c rest ih =>
      rw [List.cons_append, List.dropWhile_cons, List.dropWhile_cons]
      split
      · exact ih
      · rfl

theorem Reads.dropBlanks {α : Type} {read : List Char → Option (α × List Char)}
    (h : Reads loss read) : Reads loss fun s => read (s.dropWhile isBlank) where
  suffix hread := (h.suffix hread).trans (List.dropWhile_suffix isBlank)
  agrees s := by
    rw [dropWhile_append]
    exact h.agrees (s.dropWhile isBlank)

/-- The number that digits write in a count, and the text behind the blanks that follow. -/
def countNumber (found : List Char × List Char) : Option Nat × List Char :=
  (if found.1.isEmpty || Decimal.maxWord32 < Decimal.digitsValue found.1 then none
    else some (Decimal.digitsValue found.1), skip ignoring (found.2.dropWhile isBlank))

theorem reads_readCountNumber? : Reads loss fun s => some (readCountNumber? ignoring s) := by
  have hdigits : Reads loss fun s => some (readWhile Decimal.isDigit ignoring false s) :=
    reads_readWhile ignoring (by decide) false
  have hnumber : ∀ digits, Reads loss fun rest => some (countNumber ignoring (digits, rest)) :=
    fun digits => ((Reads.found (countNumber ignoring (digits, [])).1).skip ignoring).dropBlanks
  have hboth : Reads loss fun s => (some (readWhile Decimal.isDigit ignoring false s)).bind
      fun found => some (countNumber ignoring found) := hdigits.bind hnumber
  exact hboth.dropBlanks

/-- A number in a count, and what is read behind it. -/
def readNumber? (next : Nat → List Char → Option (Count × List Char)) (s : List Char) :
    Option (Count × List Char) :=
  (some (readCountNumber? ignoring s)).bind fun found => found.1.bind fun n => next n found.2

/-- The end of a count with two numbers. -/
def closeCount? (min max : Nat) : List Char → Option (Count × List Char)
  | '\x7d' :: rest => if min ≤ max then some (⟨min, some max⟩, rest) else none
  | _ => none

/-- A count after its comma. -/
def readMax? (min : Nat) : List Char → Option (Count × List Char)
  | '\x7d' :: rest => some (⟨min, none⟩, rest)
  | s => readNumber? ignoring (closeCount? min) s

/-- A count after its first number and a comma, if there is one. -/
def readMaxAfterComma? (min : Nat) : List Char → Option (Count × List Char)
  | ',' :: rest => readMax? ignoring min (skip ignoring rest)
  | _ => none

/-- A count after its first number. -/
def readCountEnd? (min : Nat) : List Char → Option (Count × List Char)
  | '\x7d' :: rest => some (⟨min, some min⟩, rest)
  | ',' :: rest => readMax? ignoring min (skip ignoring rest)
  | _ => none

theorem reads_readNumber? {next : Nat → List Char → Option (Count × List Char)}
    (hnext : ∀ n, Reads loss (next n)) : Reads loss (readNumber? ignoring next) := by
  refine (reads_readCountNumber? ignoring).bind fun found => ?_
  cases found with
  | none => exact .failed
  | some n => exact hnext n

theorem reads_closeCount? (min max : Nat) : Reads loss (closeCount? min max) := by
  have hclosed : Reads loss fun rest =>
      if min ≤ max then some ((⟨min, some max⟩ : Count), rest) else none := by
    by_cases hle : min ≤ max
    · simpa only [hle, if_true] using .found _
    · simpa only [hle, if_false] using .failed
  refine .of_mark (show '\x7d' ≠ ')' by decide) (fun rest => rfl) (fun s hs => ?_) hclosed .failed
  unfold closeCount?
  split
  · exact absurd rfl hs
  · rfl

theorem reads_readMax? (min : Nat) : Reads loss (readMax? ignoring min) := by
  refine .of_mark (show '\x7d' ≠ ')' by decide) (fun rest => rfl) (fun s hs => ?_)
    (.found (⟨min, none⟩ : Count)) (reads_readNumber? ignoring (reads_closeCount? min))
  unfold readMax?
  split
  · exact absurd rfl hs
  · rfl

theorem reads_readMaxAfterComma? (min : Nat) : Reads loss (readMaxAfterComma? ignoring min) := by
  refine .of_mark (show ',' ≠ ')' by decide) (fun rest => rfl) (fun s hs => ?_)
    ((reads_readMax? ignoring min).skip ignoring) .failed
  unfold readMaxAfterComma?
  split
  · exact absurd rfl hs
  · rfl

theorem reads_readCountEnd? (min : Nat) : Reads loss (readCountEnd? ignoring min) := by
  refine .of_mark (show '\x7d' ≠ ')' by decide) (fun rest => rfl) (fun s hs => ?_)
    (.found (⟨min, some min⟩ : Count)) (reads_readMaxAfterComma? ignoring min)
  unfold readCountEnd? readMaxAfterComma?
  split
  · exact absurd rfl hs
  · rfl
  · next hcomma =>
    split
    · exact absurd rfl (hcomma _)
    · rfl

theorem reads_readCount? : Reads loss (readCount? ignoring) := by
  have hcount : Reads loss (readNumber? ignoring (readCountEnd? ignoring)) :=
    reads_readNumber? ignoring (reads_readCountEnd? ignoring)
  exact hcount.skip ignoring

end Counts

end CsvSchema.Pattern
