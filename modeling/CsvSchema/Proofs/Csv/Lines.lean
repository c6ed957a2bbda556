import Mathlib.Tactic.ByContra
import CsvSchema.Csv.Reader
import CsvSchema.Proofs.WellFormed.Basic

/-!
# Lines and records

The text before the start of a record reads as the records before it.  These are fewer than the
lines up to the record, and just one fewer if and only if each line before it is a record: none of
them is empty, and no field has the end of a line in it, `exists_start`.
-/

namespace CsvSchema.Csv

open Text (consFirst)

section

variable {σ : Type} [BEq σ]

/-- The lines of a text, where a line feed right behind a carriage return belongs to the same line
end. The last line is what stands behind the last line end. -/
def Dialect.linesAfter (d : Dialect σ) (afterReturn : Bool) : List σ → List (List σ)
  | [] => [[]]
  | c :: rest =>
      if afterReturn && c == d.lineFeed then d.linesAfter false rest
      else if d.endsLine c then [] :: d.linesAfter (c == d.carriageReturn) rest
      else consFirst c (d.linesAfter false rest)

/-- The lines of a text. -/
def Dialect.lines (d : Dialect σ) (text : List σ) : List (List σ) := d.linesAfter false text

/-- The number, counted from one, of the line that the symbol at an offset stands in. -/
def Dialect.lineAt (d : Dialect σ) (text : List σ) (offset : Nat) : Nat :=
  (d.lines (text.take offset)).length

/-- Where a reader stands after a move. -/
def Move.next : Move → Place
  | .skip => .lineStart
  | .endField => .fieldStart
  | .endRecord => .lineStart
  | .keep next => next
  | .drop next => next

/-- Where a reader stands after some symbols. -/
def Dialect.placeAfter (d : Dialect σ) (place : Place) (symbols : List σ) : Place :=
  symbols.foldl (fun place c => (d.move place c).next) place

/-- The record with an index starts at an offset: there the start of a line is, the text before it
reads as the records before the record, the text from there on as the others, and it is not the end
of an empty line that comes next. -/
structure StartsAt (d : Dialect σ) (text : List σ) (index offset : Nat) : Prop where
  place : d.placeAfter .lineStart (text.take offset) = .lineStart
  before : recordsFrom d .lineStart (text.take offset) = (recordsFrom d .lineStart text).take index
  behind : recordsFrom d .lineStart (text.drop offset) = (recordsFrom d .lineStart text).drop index
  start : ∃ c, text[offset]? = some c ∧ d.endsLine c = false

/-- Records without the end of a line in a field. -/
def Unbroken (d : Dialect σ) (records : List (List (List σ))) : Prop :=
  ∀ record ∈ records, ∀ field ∈ record, ∀ c ∈ field, d.endsLine c = false

instance (d : Dialect σ) (records : List (List (List σ))) : Decidable (Unbroken d records) :=
  inferInstanceAs
    (Decidable (∀ record ∈ records, ∀ field ∈ record, ∀ c ∈ field, d.endsLine c = false))

/-- Each line of a text but the last is a record: it is not empty, and no record goes on over its
end. -/
structure LineByLine (d : Dialect σ) (text : List σ) : Prop where
  nonempty : [] ∉ (d.lines text).dropLast
  unbroken : Unbroken d (recordsFrom d .lineStart text)

/-- What ends a line neither separates fields nor encloses them. -/
structure Dialect.IsSound (d : Dialect σ) : Prop where
  separator : ∀ c, d.endsLine c = true → (c == d.separator) = false
  quote : ∀ c, d.endsLine c = true → (d.quote == some c) = false

/-- What a move does to the records that come after it. -/
def Move.put (c : σ) : Move → List (List (List σ)) → List (List (List σ))
  | .skip, records => records
  | .endField, records => addField records
  | .endRecord, records => [[]] :: records
  | .keep _, records => addSymbol c records
  | .drop _, records => records

end

section Records

variable {σ : Type} {c : σ} {records : List (List (List σ))}

theorem length_addField (h : records ≠ []) : (addField records).length = records.length := by
  cases records with
  | nil => contradiction
  | cons record records => rfl

theorem length_addSymbol (h : records ≠ []) : (addSymbol c records).length = records.length := by
  rcases records with _ | ⟨_ | ⟨field, fields⟩, records⟩
  · contradiction
  · rfl
  · rfl

theorem addField_append (h : records ≠ []) (more : List (List (List σ))) :
    addField (records ++ more) = addField records ++ more := by
  cases records with
  | nil => contradiction
  | cons record records => rfl

theorem addSymbol_append (h : records ≠ []) (more : List (List (List σ))) :
    addSymbol c (records ++ more) = addSymbol c records ++ more := by
  rcases records with _ | ⟨_ | ⟨field, fields⟩, records⟩
  · contradiction
  · rfl
  · rfl

end Records

section Moves

variable {σ : Type} [BEq σ] {d : Dialect σ} {c : σ} {place : Place}

/-- A move that goes on with the record. -/
def Move.Continues : Move → Prop
  | .skip => False
  | .endField => True
  | .endRecord => False
  | .keep next => next ≠ .lineStart
  | .drop next => next ≠ .lineStart

theorem Move.Continues.next_ne {move : Move} (h : move.Continues) : move.next ≠ .lineStart := by
  cases move with
  | skip => cases h
  | endField => simp [Move.next]
  | endRecord => cases h
  | keep next => exact h
  | drop next => exact h

/-- A symbol that does not end a line belongs to a record. -/
theorem continues_of_not_endsLine (hc : d.endsLine c = false) (place : Place) :
    (d.move place c).Continues := by
  have hplain : (d.plainMove c).Continues := by
    unfold Dialect.plainMove
    rw [hc]
    split <;> simp [Move.Continues]
  have hopening : (d.openingMove c).Continues := by
    unfold Dialect.openingMove
    split
    · simp [Move.Continues]
    · exact hplain
  cases place with
  | lineStart => simpa [Dialect.move, hc] using hopening
  | fieldStart => exact hopening
  | plain => exact hplain
  | quoted =>
      rw [Dialect.move]
      split <;> simp [Move.Continues]
  | afterQuote =>
      rw [Dialect.move]
      split
      · simp [Move.Continues]
      · exact hplain

/-- The end of a line is skipped before a record, kept inside quotes, and else ends a record. -/
theorem move_of_endsLine (hd : d.IsSound) (hc : d.endsLine c = true) (place : Place) :
    d.move place c = match place with
      | .lineStart => .skip
      | .quoted => .keep .quoted
      | _ => .endRecord := by
  have hseparator := hd.separator c hc
  have hquote := hd.quote c hc
  cases place <;>
    simp [Dialect.move, Dialect.openingMove, Dialect.plainMove, hc, hseparator, hquote]

theorem recordsFrom_cons (place : Place) (c : σ) (rest : List σ) :
    recordsFrom d place (c :: rest) =
      (d.move place c).put c (recordsFrom d (d.move place c).next rest) := by
  cases place <;> (rw [recordsFrom]; cases d.move _ c <;> rfl)

namespace Move.Continues

variable {move : Move} {records : List (List (List σ))}

omit [BEq σ]

theorem length_put (h : move.Continues) (hrecords : records ≠ []) :
    (move.put c records).length = records.length := by
  cases move with
  | skip => cases h
  | endField => exact length_addField hrecords
  | endRecord => cases h
  | keep next => exact length_addSymbol hrecords
  | drop next => rfl

theorem put_append (h : move.Continues) (hrecords : records ≠ []) (more : List (List (List σ))) :
    move.put c (records ++ more) = move.put c records ++ more := by
  cases move with
  | skip => cases h
  | endField => exact addField_append hrecords more
  | endRecord => cases h
  | keep next => exact addSymbol_append hrecords more
  | drop next => rfl

end Move.Continues

/-- Reading goes on with a record, skips the end of an empty line, keeps one inside quotes or ends a
record. -/
@[elab_as_elim]
theorem Dialect.IsSound.reading (hd : d.IsSound) {motive : Place → List σ → Prop}
    (nil : ∀ place, motive place [])
    (inside : ∀ place c rest, d.endsLine c = false → motive (d.move place c).next rest →
      motive place (c :: rest))
    (blank : ∀ c rest, d.endsLine c = true → motive .lineStart rest → motive .lineStart (c :: rest))
    (kept : ∀ c rest, d.endsLine c = true → motive .quoted rest → motive .quoted (c :: rest))
    (ended : ∀ place c rest, d.endsLine c = true → place ≠ .lineStart →
      d.move place c = .endRecord → motive .lineStart rest → motive place (c :: rest))
    (place : Place) (s : List σ) : motive place s := by
  induction s generalizing place with
  | nil => exact nil place
  | cons c rest ih =>
      cases hc : d.endsLine c with
      | false => exact inside place c rest hc (ih _)
      | true =>
          have hmove := move_of_endsLine hd hc place
          cases place with
          | lineStart => exact blank c rest hc (ih _)
          | quoted => exact kept c rest hc (ih _)
          | fieldStart => exact ended _ c rest hc (by simp) hmove (ih _)
          | plain => exact ended _ c rest hc (by simp) hmove (ih _)
          | afterQuote => exact ended _ c rest hc (by simp) hmove (ih _)

theorem recordsFrom_ended (hmove : d.move place c = .endRecord) (rest : List σ) :
    recordsFrom d place (c :: rest) = [[]] :: recordsFrom d .lineStart rest := by
  rw [recordsFrom_cons, hmove]
  rfl

theorem placeAfter_cons (place : Place) (c : σ) (rest : List σ) :
    d.placeAfter place (c :: rest) = d.placeAfter (d.move place c).next rest := rfl

section Lines

theorem length_consFirst {α : Type} {x : α} {pieces : List (List α)} (h : pieces ≠ []) :
    (consFirst x pieces).length = pieces.length := by
  cases pieces with
  | nil => contradiction
  | cons piece pieces => rfl

theorem linesAfter_ne_nil (afterReturn : Bool) (s : List σ) : d.linesAfter afterReturn s ≠ [] := by
  induction s generalizing afterReturn with
  | nil => simp [Dialect.linesAfter]
  | cons c rest ih =>
      rw [Dialect.linesAfter]
      split
      · exact ih false
      · split
        · exact List.cons_ne_nil _ _
        · rw [← List.length_pos_iff, length_consFirst (ih false), List.length_pos_iff]
          exact ih false

theorem linesAfter_of_not_endsLine (hc : d.endsLine c = false) (afterReturn : Bool)
    (rest : List σ) :
    d.linesAfter afterReturn (c :: rest) = consFirst c (d.linesAfter false rest) := by
  have hfeed : (c == d.lineFeed) = false := (Bool.or_eq_false_iff.1 hc).2
  rw [Dialect.linesAfter, hfeed, hc]
  simp

/-- What ends a line belongs to the line end in front of it, or ends a line of its own. -/
theorem linesAfter_of_endsLine (hc : d.endsLine c = true) (afterReturn : Bool) (rest : List σ) :
    (afterReturn = true ∧ d.linesAfter afterReturn (c :: rest) = d.linesAfter false rest) ∨
      ∃ after, d.linesAfter afterReturn (c :: rest) = [] :: d.linesAfter after rest := by
  rw [Dialect.linesAfter, hc]
  split
  · next h => exact .inl ⟨(Bool.and_eq_true_iff.1 h).1, rfl⟩
  · exact .inr ⟨_, rfl⟩

/-- The lines that start at a place or behind it, without the last one. -/
def Place.startedLines (place : Place) (lines : List (List σ)) : List (List σ) :=
  if place = .lineStart then lines.dropLast else lines.tail.dropLast

omit [BEq σ] in
theorem nil_mem_startedLines_consFirst {lines : List (List σ)} (h : lines ≠ []) :
    [] ∈ place.startedLines (consFirst c lines) ↔ [] ∈ lines.tail.dropLast := by
  obtain ⟨first, others, rfl⟩ := List.exists_cons_of_ne_nil h
  unfold Place.startedLines
  split
  · cases others with
    | nil => rfl
    | cons second others =>
        simp [consFirst, List.dropLast_cons_of_ne_nil]
  · rfl

theorem unbroken_cons_iff {record : List (List σ)} {records : List (List (List σ))} :
    Unbroken d (record :: records) ↔
      (∀ field ∈ record, ∀ c ∈ field, d.endsLine c = false) ∧ Unbroken d records := by
  simp [Unbroken]

theorem unbroken_addSymbol_iff {records : List (List (List σ))} :
    Unbroken d (addSymbol c records) ↔ d.endsLine c = false ∧ Unbroken d records := by
  rcases records with _ | ⟨_ | ⟨field, fields⟩, records⟩ <;>
    simp [addSymbol, Unbroken, and_assoc]

theorem unbroken_addField_iff {records : List (List (List σ))} :
    Unbroken d (addField records) ↔ Unbroken d records := by
  cases records <;> simp [addField, Unbroken]

theorem Move.Continues.unbroken_put {move : Move} (h : move.Continues) (hc : d.endsLine c = false)
    {records : List (List (List σ))} :
    Unbroken d (move.put c records) ↔ Unbroken d records := by
  cases move with
  | skip => cases h
  | endField => exact unbroken_addField_iff
  | endRecord => cases h
  | keep next => simp [Move.put, unbroken_addSymbol_iff, hc]
  | drop next => rfl

end Lines

section Reading

variable (hd : d.IsSound)
include hd

theorem recordsFrom_blank (hc : d.endsLine c = true) (rest : List σ) :
    recordsFrom d .lineStart (c :: rest) = recordsFrom d .lineStart rest := by
  rw [recordsFrom_cons, move_of_endsLine hd hc]
  rfl

theorem recordsFrom_kept (hc : d.endsLine c = true) (rest : List σ) :
    recordsFrom d .quoted (c :: rest) = addSymbol c (recordsFrom d .quoted rest) := by
  rw [recordsFrom_cons, move_of_endsLine hd hc]
  rfl

/-- The rest of a record is a record. -/
theorem recordsFrom_ne_nil (hplace : place ≠ .lineStart) (s : List σ) :
    recordsFrom d place s ≠ [] := by
  induction place, s using hd.reading with
  | nil place => cases place <;> simp_all [recordsFrom]
  | inside place c rest hc ih =>
      have hcontinues := continues_of_not_endsLine hc place
      have hrest := ih hcontinues.next_ne
      rw [recordsFrom_cons, ← List.length_pos_iff]
      rwa [hcontinues.length_put hrest, List.length_pos_iff]
  | blank c rest hc ih => contradiction
  | kept c rest hc ih =>
      have hrest := ih hplace
      rw [recordsFrom_kept hd hc, ← List.length_pos_iff]
      rwa [length_addSymbol hrest, List.length_pos_iff]
  | ended place c rest hc hne hmove ih =>
      rw [recordsFrom_ended hmove]
      exact List.cons_ne_nil _ _

/-- Where a text stands between records, its parts are read one after the other. -/
theorem recordsFrom_append {before : List σ} (h : d.placeAfter place before = .lineStart)
    (rest : List σ) :
    recordsFrom d place (before ++ rest) =
      recordsFrom d place before ++ recordsFrom d .lineStart rest := by
  induction place, before using hd.reading with
  | nil place =>
      obtain rfl : place = .lineStart := h
      rfl
  | inside place c more hc ih =>
      have hcontinues := continues_of_not_endsLine hc place
      rw [List.cons_append, recordsFrom_cons, recordsFrom_cons, ih h,
        hcontinues.put_append (recordsFrom_ne_nil hd hcontinues.next_ne more)]
  | blank c more hc ih =>
      rw [placeAfter_cons, move_of_endsLine hd hc] at h
      rw [List.cons_append, recordsFrom_blank hd hc, recordsFrom_blank hd hc, ih h]
  | kept c more hc ih =>
      rw [placeAfter_cons, move_of_endsLine hd hc] at h
      rw [List.cons_append, recordsFrom_kept hd hc, recordsFrom_kept hd hc, ih h,
        addSymbol_append (recordsFrom_ne_nil hd (by simp) more)]
  | ended place c more hc hne hmove ih =>
      rw [placeAfter_cons, hmove] at h
      rw [List.cons_append, recordsFrom_ended hmove, recordsFrom_ended hmove, ih h,
        List.cons_append]

/-- In front of each record but a started one, there is a place between records, with a symbol
behind it that does not end a line. -/
theorem exists_split {s : List σ} {index : Nat}
    (h : index + (if place = .lineStart then 0 else 1) < (recordsFrom d place s).length) :
    ∃ before c rest, s = before ++ c :: rest ∧ d.endsLine c = false ∧
      d.placeAfter place before = .lineStart ∧
      (recordsFrom d place before).length = index + if place = .lineStart then 0 else 1 := by
  induction place, s using hd.reading generalizing index with
  | nil place => cases place <;> simp [recordsFrom] at h
  | inside place c rest hc ih =>
      have hcontinues := continues_of_not_endsLine hc place
      have hlength : ∀ s, (recordsFrom d place (c :: s)).length =
          (recordsFrom d (d.move place c).next s).length := by
        intro s
        rw [recordsFrom_cons, hcontinues.length_put (recordsFrom_ne_nil hd hcontinues.next_ne s)]
      rw [hlength] at h
      have hnext := hcontinues.next_ne
      -- The symbol is the first one of the record or a later one, or the record has started before.
      by_cases hfirst : place = .lineStart ∧ index = 0
      · obtain ⟨rfl, rfl⟩ := hfirst
        exact ⟨[], c, rest, rfl, hc, rfl, rfl⟩
      · obtain ⟨later, hlater⟩ :
            ∃ later, later + 1 = index + if place = .lineStart then 0 else 1 := by
          by_cases hstart : place = .lineStart
          · have hne : index ≠ 0 := fun hzero => hfirst ⟨hstart, hzero⟩
            exact ⟨index - 1, by simp [hstart]; omega⟩
          · exact ⟨index, by simp [hstart]⟩
        rw [← hlater] at h ⊢
        simp only [hnext, if_false] at ih
        obtain ⟨before, next, rest, rfl, hnextEnds, hplace, hbefore⟩ := ih h
        exact ⟨c :: before, next, rest, rfl, hnextEnds, hplace, by rw [hlength, hbefore]⟩
  | blank c rest hc ih =>
      rw [recordsFrom_blank hd hc] at h
      obtain ⟨before, next, rest, rfl, hnext, hplace, hbefore⟩ := ih h
      refine ⟨c :: before, next, rest, rfl, hnext, ?_, ?_⟩
      · rwa [placeAfter_cons, move_of_endsLine hd hc]
      · rwa [recordsFrom_blank hd hc]
  | kept c rest hc ih =>
      have hlength : ∀ s, (recordsFrom d .quoted (c :: s)).length =
          (recordsFrom d .quoted s).length := by
        intro s
        rw [recordsFrom_kept hd hc, length_addSymbol (recordsFrom_ne_nil hd (by simp) s)]
      rw [hlength] at h
      obtain ⟨before, next, rest, rfl, hnext, hplace, hbefore⟩ := ih h
      refine ⟨c :: before, next, rest, rfl, hnext, ?_, ?_⟩
      · rwa [placeAfter_cons, move_of_endsLine hd hc]
      · rwa [hlength]
  | ended place c rest hc hne hmove ih =>
      simp only [recordsFrom_ended hmove, hne, if_false, List.length_cons, if_true, Nat.add_zero,
        Nat.add_lt_add_iff_right] at h ih ⊢
      obtain ⟨before, next, rest, rfl, hnext, hplace, hbefore⟩ := ih h
      refine ⟨c :: before, next, rest, rfl, hnext, ?_, ?_⟩
      · rwa [placeAfter_cons, hmove]
      · rw [recordsFrom_ended hmove, List.length_cons, hbefore]

/-- A text has more lines than records. -/
theorem length_recordsFrom_lt {s : List σ} {afterReturn : Bool}
    (hplace : d.placeAfter place s = .lineStart)
    (hreturn : afterReturn = true → place = .lineStart ∨ place = .quoted) :
    (recordsFrom d place s).length < (d.linesAfter afterReturn s).length := by
  induction place, s using hd.reading generalizing afterReturn with
  | nil place =>
      obtain rfl : place = .lineStart := hplace
      exact Nat.one_pos
  | inside place c rest hc ih =>
      have hcontinues := continues_of_not_endsLine hc place
      rw [recordsFrom_cons, linesAfter_of_not_endsLine hc, length_consFirst (linesAfter_ne_nil _ _),
        hcontinues.length_put (recordsFrom_ne_nil hd hcontinues.next_ne rest)]
      exact ih hplace (by simp)
  | blank c rest hc ih =>
      rw [placeAfter_cons, move_of_endsLine hd hc] at hplace
      rw [recordsFrom_blank hd hc]
      -- The line feed of a pair ends no line; any other end of a line is one line more.
      obtain ⟨-, hlines⟩ | ⟨after, hlines⟩ := linesAfter_of_endsLine hc afterReturn rest
      · rw [hlines]
        exact ih hplace (by simp)
      · rw [hlines]
        exact Nat.lt_succ_of_lt (ih hplace fun _ => .inl rfl)
  | kept c rest hc ih =>
      rw [placeAfter_cons, move_of_endsLine hd hc] at hplace
      rw [recordsFrom_kept hd hc, length_addSymbol (recordsFrom_ne_nil hd (by simp) rest)]
      obtain ⟨-, hlines⟩ | ⟨after, hlines⟩ := linesAfter_of_endsLine hc afterReturn rest
      · rw [hlines]
        exact ih hplace (by simp)
      · rw [hlines]
        exact Nat.lt_succ_of_lt (ih hplace fun _ => .inr rfl)
  -- Right behind a return the reader stands between records or in quotes, where none ends.
  | ended place c rest hc hne hmove ih =>
      rw [placeAfter_cons, hmove] at hplace
      rw [recordsFrom_ended hmove]
      obtain ⟨rfl, -⟩ | ⟨after, hlines⟩ := linesAfter_of_endsLine hc afterReturn rest
      · obtain rfl | rfl := hreturn rfl
        · contradiction
        · rw [move_of_endsLine hd hc] at hmove
          cases hmove
      · rw [hlines]
        exact Nat.succ_lt_succ (ih hplace (fun _ => .inl rfl))

/-- A text has one line more than it has records if and only if all lines but the last are
records. -/
theorem length_linesAfter_eq_iff {s : List σ} {afterReturn : Bool}
    (hplace : d.placeAfter place s = .lineStart)
    (hreturn : afterReturn = true → place = .lineStart) :
    (d.linesAfter afterReturn s).length = (recordsFrom d place s).length + 1 ↔
      [] ∉ place.startedLines (d.linesAfter afterReturn s) ∧
        Unbroken d (recordsFrom d place s) := by
  induction place, s using hd.reading generalizing afterReturn with
  | nil place =>
      obtain rfl : place = .lineStart := hplace
      simp [Dialect.linesAfter, recordsFrom, Place.startedLines, Unbroken]
  | inside place c rest hc ih =>
      have hcontinues := continues_of_not_endsLine hc place
      have hrecords := recordsFrom_ne_nil hd hcontinues.next_ne rest
      rw [recordsFrom_cons, linesAfter_of_not_endsLine hc, length_consFirst (linesAfter_ne_nil _ _),
        hcontinues.length_put hrecords, hcontinues.unbroken_put hc,
        nil_mem_startedLines_consFirst (linesAfter_ne_nil _ _)]
      have hfalse : false = true → (d.move place c).next = .lineStart := by simp
      have hrest := ih hplace hfalse
      rwa [Place.startedLines, if_neg hcontinues.next_ne] at hrest
  | blank c rest hc ih =>
      rw [placeAfter_cons, move_of_endsLine hd hc] at hplace
      rw [recordsFrom_blank hd hc]
      obtain ⟨-, hlines⟩ | ⟨after, hlines⟩ := linesAfter_of_endsLine hc afterReturn rest
      · rw [hlines]
        exact ih hplace (by simp)
      -- An empty line is a line too many.
      · have hless : (recordsFrom d .lineStart rest).length < (d.linesAfter after rest).length :=
          length_recordsFrom_lt hd hplace fun _ => .inl rfl
        rw [hlines]
        refine iff_of_false ?_ ?_
        · rw [List.length_cons]
          omega
        · rintro ⟨hnonempty, -⟩
          rw [Place.startedLines, if_pos rfl,
            List.dropLast_cons_of_ne_nil (linesAfter_ne_nil _ _)] at hnonempty
          exact hnonempty List.mem_cons_self
  | kept c rest hc ih =>
      rw [placeAfter_cons, move_of_endsLine hd hc] at hplace
      rw [recordsFrom_kept hd hc, length_addSymbol (recordsFrom_ne_nil hd (by simp) rest)]
      obtain ⟨rfl, -⟩ | ⟨after, hlines⟩ := linesAfter_of_endsLine hc afterReturn rest
      · cases hreturn rfl
      -- A line that ends in a field is a line too many.
      · have hless : (recordsFrom d .quoted rest).length < (d.linesAfter after rest).length :=
          length_recordsFrom_lt hd hplace fun _ => .inr rfl
        rw [hlines]
        refine iff_of_false ?_ ?_
        · rw [List.length_cons]
          omega
        · rintro ⟨-, hunbroken⟩
          rw [unbroken_addSymbol_iff, hc] at hunbroken
          cases hunbroken.1
  | ended place c rest hc hne hmove ih =>
      rw [placeAfter_cons, hmove] at hplace
      rw [recordsFrom_ended hmove, unbroken_cons_iff]
      obtain ⟨rfl, -⟩ | ⟨after, hlines⟩ := linesAfter_of_endsLine hc afterReturn rest
      · exact absurd (hreturn rfl) hne
      · rw [hlines, List.length_cons, List.length_cons, Nat.add_right_cancel_iff,
          ih hplace (fun _ => rfl)]
        simp [Place.startedLines, hne]

/-- No record starts behind the start of the same record. -/
theorem StartsAt.le {text : List σ} {index offset later : Nat} (h : StartsAt d text index offset)
    (hlater : StartsAt d text index later) : later ≤ offset := by
  obtain ⟨c, hc, hends⟩ := h.start
  obtain ⟨hlength, hget⟩ := List.getElem?_eq_some_iff.1 hc
  by_contra hlt
  obtain ⟨more, rfl⟩ : ∃ more, later = offset + (more + 1) := ⟨later - offset - 1, by omega⟩
  have hcontinues := continues_of_not_endsLine hends .lineStart
  -- The text up to the later offset has the symbol at the first one in it, and so one more record.
  have hbetween := hlater.before
  rw [List.take_add, List.drop_eq_getElem_cons hlength, hget, List.take_succ_cons,
    recordsFrom_append hd h.place, h.before, List.append_right_eq_self, ← List.length_eq_zero_iff,
    recordsFrom_cons, hcontinues.length_put (recordsFrom_ne_nil hd hcontinues.next_ne _),
    List.length_eq_zero_iff] at hbetween
  exact recordsFrom_ne_nil hd hcontinues.next_ne _ hbetween

theorem StartsAt.unique {text : List σ} {index offset₁ offset₂ : Nat}
    (h₁ : StartsAt d text index offset₁) (h₂ : StartsAt d text index offset₂) : offset₁ = offset₂ :=
  Nat.le_antisymm (h₂.le hd h₁) (h₁.le hd h₂)

/-- A text that ends between records is read line by line if and only if it has one line more than
it has records. -/
theorem lineByLine_iff {text : List σ} (hplace : d.placeAfter .lineStart text = .lineStart) :
    (d.lines text).length = (recordsFrom d .lineStart text).length + 1 ↔ LineByLine d text :=
  (length_linesAfter_eq_iff hd hplace fun _ => rfl).trans
    ⟨fun h => ⟨h.1, h.2⟩, fun h => ⟨h.nonempty, h.unbroken⟩⟩

/-- Each record starts somewhere.  The number of its line is at least its own number, and they are
the same if and only if each line before it is a record. -/
theorem exists_start {text : List σ} {index : Nat}
    (h : index < (recordsFrom d .lineStart text).length) :
    ∃ offset, StartsAt d text index offset ∧ index + 1 ≤ d.lineAt text offset ∧
      (index + 1 = d.lineAt text offset ↔ LineByLine d (text.take offset)) := by
  have hindex : index + (if Place.lineStart = .lineStart then 0 else 1) <
      (recordsFrom d .lineStart text).length := h
  obtain ⟨before, c, rest, rfl, hc, hplace, hbefore⟩ := exists_split hd hindex
  obtain rfl : (recordsFrom d .lineStart before).length = index := hbefore
  have htake : (before ++ c :: rest).take before.length = before := List.take_left
  refine ⟨before.length, ⟨by rwa [htake], ?_, ?_, c, by simp, hc⟩, ?_, ?_⟩
  · rw [htake, recordsFrom_append hd hplace, List.take_left]
  · rw [List.drop_left, recordsFrom_append hd hplace, List.drop_left]
  · rw [Dialect.lineAt, htake]
    exact length_recordsFrom_lt hd hplace fun _ => .inl rfl
  · rw [Dialect.lineAt, htake, ← lineByLine_iff hd hplace]
    exact eq_comm

end Reading

end Moves

theorem isSound_charDialect {settings : FileSettings} (h : IsSeparator settings.separator) :
    (charDialect settings).IsSound := by
  have hends : ∀ c, (charDialect settings).endsLine c = true → c = '\r' ∨ c = '\n' := by
    intro c hc
    simpa [Dialect.endsLine, charDialect] using hc
  constructor
  · intro c hc
    obtain rfl | rfl := hends c hc
    · simpa [charDialect] using h.2.2.symm
    · simpa [charDialect] using h.2.1.symm
  · intro c hc
    obtain rfl | rfl := hends c hc <;> simp [charDialect]

end CsvSchema.Csv
