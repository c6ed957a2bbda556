import Mathlib.Logic.Function.Iterate
import CsvSchema.Pattern.Matching

/-!
# Spans of regular expressions

Which parts of a text an expression matches, as a relation between the places where a part starts
and where it ends.  Following marks through an expression finds exactly the ends of the parts that
start at a mark, `Regex.transports_reach`; an unbounded repetition may stop after as many rounds as
there are places, because a round that stays where it is can be left out.
-/

namespace CsvSchema.Pattern

/-- The place with a number of characters before it. -/
def edgeAt (text : List Char) (i : Nat) : Edge := ⟨if i = 0 then none else text[i - 1]?, text[i]?⟩

/-- A relation carried on `n` times. -/
def Times (R : Nat → Nat → Prop) : Nat → Nat → Nat → Prop
  | 0, i, j => i = j
  | n + 1, i, j => ∃ k, R i k ∧ Times R n k j

/-- Whether a count admits `n` repetitions.  If `max` is smaller than `min`, only `min` are. -/
def Count.Admits (count : Count) (n : Nat) : Prop :=
  count.min ≤ n ∧ ∀ most, count.max = some most → n ≤ most ∨ n = count.min

/-- Whether an expression matches the part of a text from the place `i` to the place `j`. -/
def Regex.Spans (text : List Char) : Regex → Nat → Nat → Prop
  | empty, i, j => i = j
  | chars set, i, j => j = i + 1 ∧ isIn set text[i]? = true
  | place p, i, j => i = j ∧ p.holds (edgeAt text i).before (edgeAt text i).after = true
  | both first second, i, j => ∃ k, first.Spans text i k ∧ second.Spans text k j
  | either left right, i, j => left.Spans text i j ∨ right.Spans text i j
  | repeated count body, i, j => ∃ n, count.Admits n ∧ Times (body.Spans text) n i j
  | group _ body, i, j => body.Spans text i j

section Times

variable {R : Nat → Nat → Prop} {i j : Nat}

theorem times_add (m n : Nat) : Times R (m + n) i j ↔ ∃ k, Times R m i k ∧ Times R n k j := by
  induction m generalizing i with
  | zero => simp [Times]
  | succ m ih =>
      rw [Nat.succ_add]
      simp only [Times, ih]
      constructor
      · rintro ⟨k, hfirst, l, hmore, hrest⟩
        exact ⟨l, ⟨k, hfirst, hmore⟩, hrest⟩
      · rintro ⟨l, ⟨k, hfirst, hmore⟩, hrest⟩
        exact ⟨k, hfirst, l, hmore, hrest⟩

/-- Up to `m` rounds are `m` rounds some of which do nothing. -/
theorem times_or_eq_iff (m : Nat) :
    Times (fun i j => i = j ∨ R i j) m i j ↔ ∃ n, n ≤ m ∧ Times R n i j := by
  induction m generalizing i with
  | zero =>
      constructor
      · exact fun h => ⟨0, Nat.le_refl 0, h⟩
      · rintro ⟨n, hn, h⟩
        rwa [Nat.le_zero.1 hn] at h
  | succ m ih =>
      constructor
      · rintro ⟨k, rfl | hround, hrest⟩
        · obtain ⟨n, hn, h⟩ := ih.1 hrest
          exact ⟨n, Nat.le_succ_of_le hn, h⟩
        · obtain ⟨n, hn, h⟩ := ih.1 hrest
          exact ⟨n + 1, Nat.succ_le_succ hn, k, hround, h⟩
      · rintro ⟨_ | n, hn, h⟩
        · exact ⟨i, .inl rfl, ih.2 ⟨0, Nat.zero_le m, h⟩⟩
        · obtain ⟨k, hround, hrest⟩ := h
          exact ⟨k, .inr hround, ih.2 ⟨n, Nat.le_of_succ_le_succ hn, hrest⟩⟩

theorem Times.le (hR : ∀ i j, R i j → i ≤ j) {n : Nat} (h : Times R n i j) : i ≤ j := by
  induction n generalizing i with
  | zero => exact Nat.le_of_eq h
  | succ n ih =>
      obtain ⟨k, hround, hrest⟩ := h
      exact Nat.le_trans (hR i k hround) (ih hrest)

/-- Rounds that stay where they are can be left out. -/
theorem Times.exists_le (hR : ∀ i j, R i j → i ≤ j) {n : Nat} (h : Times R n i j) :
    ∃ m, m ≤ j - i ∧ Times R m i j := by
  induction n generalizing i with
  | zero => exact ⟨0, Nat.zero_le _, h⟩
  | succ n ih =>
      obtain ⟨k, hround, hrest⟩ := h
      obtain ⟨m, hm, hfewer⟩ := ih hrest
      have hlater : k ≤ j := hfewer.le hR
      obtain heq | hlt := Nat.eq_or_lt_of_le (hR i k hround)
      · exact ⟨m, by omega, heq ▸ hfewer⟩
      · exact ⟨m + 1, by omega, k, hround, hfewer⟩

end Times

theorem Regex.Spans.le {text : List Char} {r : Regex} {i j : Nat} (h : r.Spans text i j) :
    i ≤ j := by
  induction r generalizing i j with
  | empty => exact Nat.le_of_eq h
  | chars set => exact h.1 ▸ Nat.le_succ i
  | place p => exact Nat.le_of_eq h.1
  | both first second ihFirst ihSecond =>
      obtain ⟨k, hfirst, hsecond⟩ := h
      exact Nat.le_trans (ihFirst hfirst) (ihSecond hsecond)
  | either left right ihLeft ihRight => exact h.elim ihLeft ihRight
  | repeated count body ih =>
      obtain ⟨n, -, hrounds⟩ := h
      exact hrounds.le fun i j => ih
  | group _ body ih => exact ih h

/-- Whether a place is marked. -/
def Marked (marks : List Bool) (i : Nat) : Prop := marks[i]? = some true

theorem Marked.lt {marks : List Bool} {i : Nat} (h : Marked marks i) : i < marks.length :=
  (List.getElem?_eq_some_iff.1 h).1

theorem marked_joinMarks {a b : List Bool} (h : a.length = b.length) (i : Nat) :
    Marked (joinMarks a b) i ↔ Marked a i ∨ Marked b i := by
  unfold Marked joinMarks
  rw [List.getElem?_zipWith]
  by_cases hi : i < a.length
  · rw [List.getElem?_eq_getElem hi, List.getElem?_eq_getElem (h ▸ hi)]
    simp
  · rw [List.getElem?_eq_none (Nat.le_of_not_lt hi),
      List.getElem?_eq_none (h ▸ Nat.le_of_not_lt hi)]
    simp

/-- Marks that are kept where the place fits. -/
theorem marked_zipWith {edges : List Edge} {marks : List Bool} {fits : Edge → Bool} {i : Nat}
    {edge : Edge} (h : edges[i]? = some edge) :
    Marked (List.zipWith (fun mark edge => mark && fits edge) marks edges) i ↔
      Marked marks i ∧ fits edge = true := by
  unfold Marked
  rw [List.getElem?_zipWith, h]
  cases marks[i]? <;> simp

theorem length_edgesOf (text : List Char) : (edgesOf text).length = text.length + 1 := by
  have hlength : ∀ before, (edgesAfter before text).length = text.length + 1 := by
    induction text with
    | nil => exact fun _ => rfl
    | cons c rest ih => exact fun before => congrArg (· + 1) (ih (some c))
  exact hlength none

theorem getElem?_edgesOf {text : List Char} {i : Nat} (h : i ≤ text.length) :
    (edgesOf text)[i]? = some (edgeAt text i) := by
  have hedge : ∀ before, (edgesAfter before text)[i]? =
      some ⟨if i = 0 then before else text[i - 1]?, text[i]?⟩ := by
    induction text generalizing i with
    | nil =>
        obtain rfl := Nat.le_zero.1 h
        exact fun _ => rfl
    | cons c rest ih =>
        intro before
        cases i with
        | zero => rfl
        | succ i =>
            rw [edgesAfter, List.getElem?_cons_succ, ih (Nat.le_of_succ_le_succ h)]
            cases i <;> rfl
  exact hedge none

/-- A step leads marks at some number of places along a relation of places. -/
structure Transports (size : Nat) (step : List Bool → List Bool) (R : Nat → Nat → Prop) : Prop where
  length : ∀ marks, marks.length = size → (step marks).length = size
  marked : ∀ marks, marks.length = size → ∀ j,
    (Marked (step marks) j ↔ ∃ i, Marked marks i ∧ R i j)

namespace Transports

variable {size : Nat} {first second : List Bool → List Bool} {R S : Nat → Nat → Prop}

theorem id : Transports size (fun marks => marks) Eq where
  length _ h := h
  marked marks _ j := by simp

theorem comp (hfirst : Transports size first R) (hsecond : Transports size second S) :
    Transports size (fun marks => second (first marks)) (fun i j => ∃ k, R i k ∧ S k j) where
  length marks h := hsecond.length _ (hfirst.length marks h)
  marked marks h j := by
    rw [hsecond.marked _ (hfirst.length marks h)]
    constructor
    · rintro ⟨k, hk, hlater⟩
      obtain ⟨i, hi, hearlier⟩ := (hfirst.marked marks h k).1 hk
      exact ⟨i, hi, k, hearlier, hlater⟩
    · rintro ⟨i, hi, k, hearlier, hlater⟩
      exact ⟨k, (hfirst.marked marks h k).2 ⟨i, hi, hearlier⟩, hlater⟩

theorem join (hfirst : Transports size first R) (hsecond : Transports size second S) :
    Transports size (fun marks => joinMarks (first marks) (second marks))
      (fun i j => R i j ∨ S i j) where
  length marks h := by
    rw [joinMarks, List.length_zipWith, hfirst.length marks h, hsecond.length marks h, Nat.min_self]
  marked marks h j := by
    rw [marked_joinMarks ((hfirst.length marks h).trans (hsecond.length marks h).symm),
      hfirst.marked marks h, hsecond.marked marks h]
    constructor
    · rintro (⟨i, hi, hspan⟩ | ⟨i, hi, hspan⟩)
      · exact ⟨i, hi, .inl hspan⟩
      · exact ⟨i, hi, .inr hspan⟩
    · rintro ⟨i, hi, hspan | hspan⟩
      · exact .inl ⟨i, hi, hspan⟩
      · exact .inr ⟨i, hi, hspan⟩

theorem iterate (hfirst : Transports size first R) (n : Nat) :
    Transports size (first^[n]) (Times R n) := by
  induction n with
  | zero => exact id
  | succ n ih => exact hfirst.comp ih

/-- No step leads out of the places. -/
theorem lt (hfirst : Transports size first R) {i j : Nat} (hi : i < size) (h : R i j) :
    j < size := by
  have hlength : (List.replicate size true).length = size := List.length_replicate
  have hmark : Marked (List.replicate size true) i := by simp [Marked, hi]
  have hlt := ((hfirst.marked _ hlength j).2 ⟨i, hmark, h⟩).lt
  rwa [hfirst.length _ hlength] at hlt

/-- A step along the same places in other words. -/
theorem congr (hfirst : Transports size first R) (h : ∀ i j, i < size → (R i j ↔ S i j)) :
    Transports size first S where
  length := hfirst.length
  marked marks hlength j := by
    rw [hfirst.marked marks hlength]
    refine exists_congr fun i => and_congr_right fun hi => h i j ?_
    exact hlength ▸ hi.lt

end Transports

/-- Steps that change nothing can be left out. -/
theorem stepTimes_eq_iterate (step : List Bool → List Bool) (n : Nat) (marks : List Bool) :
    stepTimes step n marks = step^[n] marks := by
  induction n generalizing marks with
  | zero => rfl
  | succ n ih =>
      rw [stepTimes]
      split
      · next hfixed => exact (Function.iterate_fixed hfixed (n + 1)).symm
      · exact ih (step marks)

namespace Transports

variable {text : List Char}

theorem chars (set : CharSet) :
    Transports (text.length + 1) ((Regex.chars set).reach (edgesOf text))
      ((Regex.chars set).Spans text) where
  length marks h := by
    simp [Regex.reach, length_edgesOf, h]
  marked marks h j := by
    cases j with
    | zero => simp [Regex.reach, Regex.Spans, Marked, length_edgesOf]
    | succ j =>
        have hspan : (∃ i, Marked marks i ∧ (Regex.chars set).Spans text i (j + 1)) ↔
            Marked marks j ∧ isIn set text[j]? = true := by
          simp only [Regex.Spans]
          constructor
          · rintro ⟨i, hi, heq, hin⟩
            obtain rfl := Nat.succ_inj.1 heq
            exact ⟨hi, hin⟩
          · rintro ⟨hj, hin⟩
            exact ⟨j, hj, rfl, hin⟩
        rw [hspan, Regex.reach, length_edgesOf, Marked, List.take_succ_cons,
          List.getElem?_cons_succ, List.getElem?_take]
        by_cases hj : j < text.length
        · rw [if_pos hj]
          exact marked_zipWith (getElem?_edgesOf (Nat.le_of_lt hj))
        · rw [if_neg hj, List.getElem?_eq_none (Nat.le_of_not_lt hj)]
          simp [isIn]

theorem place (p : Place) :
    Transports (text.length + 1) ((Regex.place p).reach (edgesOf text))
      ((Regex.place p).Spans text) where
  length marks h := by
    simp [Regex.reach, length_edgesOf, h]
  marked marks h j := by
    have hspan : (∃ i, Marked marks i ∧ (Regex.place p).Spans text i j) ↔
        Marked marks j ∧ p.holds (edgeAt text j).before (edgeAt text j).after = true := by
      simp only [Regex.Spans]
      constructor
      · rintro ⟨i, hi, rfl, hholds⟩
        exact ⟨hi, hholds⟩
      · rintro ⟨hj, hholds⟩
        exact ⟨j, hj, rfl, hholds⟩
    rw [hspan, Regex.reach]
    by_cases hj : j ≤ text.length
    · exact marked_zipWith (getElem?_edgesOf hj)
    -- Behind the end there is no place, and no mark either.
    · refine iff_of_false (fun hmark => hj ?_) (fun hmark => hj ?_)
      · have hlt := hmark.lt
        rw [List.length_zipWith, h, length_edgesOf, Nat.min_self] at hlt
        exact Nat.le_of_lt_succ hlt
      · have hlt := hmark.1.lt
        omega

/-- A number of rounds, and then up to `m` more. -/
theorem rounds {size : Nat} {step : List Bool → List Bool} {R : Nat → Nat → Prop}
    (h : Transports size step R) (least m : Nat) :
    Transports size
      (fun marks => stepTimes (fun marks => joinMarks marks (step marks)) m
        (stepTimes step least marks))
      (fun i j => ∃ n, n ≤ m ∧ Times R (least + n) i j) := by
  simp only [stepTimes_eq_iterate]
  refine ((h.iterate least).comp ((id.join h).iterate m)).congr fun i j _ => ?_
  simp only [times_or_eq_iff, times_add]
  constructor
  · rintro ⟨k, hleast, n, hn, hmore⟩
    exact ⟨n, hn, k, hleast, hmore⟩
  · rintro ⟨n, hn, k, hleast, hmore⟩
    exact ⟨k, hleast, n, hn, hmore⟩

theorem repeated (count : Count) {body : Regex}
    (hbody : Transports (text.length + 1) (body.reach (edgesOf text)) (body.Spans text)) :
    Transports (text.length + 1) ((Regex.repeated count body).reach (edgesOf text))
      ((Regex.repeated count body).Spans text) := by
  obtain ⟨least, _ | most⟩ := count
  -- Without a bound, as many rounds as there are places are enough.
  · have hrounds := hbody.rounds least (edgesOf text).length
    refine hrounds.congr fun i j hi => ?_
    rw [length_edgesOf]
    constructor
    · rintro ⟨n, -, hspan⟩
      exact ⟨least + n, ⟨Nat.le_add_right _ _, by simp⟩, hspan⟩
    · rintro ⟨n, ⟨hleast, -⟩, hspan⟩
      obtain ⟨more, rfl⟩ := Nat.exists_eq_add_of_le hleast
      obtain ⟨k, hfirst, hrest⟩ := (times_add _ _).1 hspan
      obtain ⟨fewer, hfewer, hshort⟩ := hrest.exists_le fun _ _ => Regex.Spans.le
      have hj : j < text.length + 1 := (hbody.iterate _).lt hi hspan
      exact ⟨fewer, by omega, (times_add _ _).2 ⟨k, hfirst, hshort⟩⟩
  · have hrounds := hbody.rounds least (most - least)
    refine hrounds.congr fun i j _ => ?_
    constructor
    · rintro ⟨n, hn, hspan⟩
      refine ⟨least + n, ⟨Nat.le_add_right _ _, fun other hother => ?_⟩, hspan⟩
      cases hother
      simp only
      omega
    · rintro ⟨n, ⟨hleast, hmost⟩, hspan⟩
      obtain ⟨more, rfl⟩ := Nat.exists_eq_add_of_le hleast
      have hle : least + more ≤ most ∨ least + more = least := hmost most rfl
      exact ⟨more, by omega, hspan⟩

end Transports

/-- Following marks through an expression leads to the ends of the parts that it matches. -/
theorem Regex.transports_reach (text : List Char) (r : Regex) :
    Transports (text.length + 1) (r.reach (edgesOf text)) (r.Spans text) := by
  induction r with
  | empty => exact .id
  | chars set => exact .chars set
  | place p => exact .place p
  | both first second ihFirst ihSecond => exact ihFirst.comp ihSecond
  | either left right ihLeft ihRight => exact ihLeft.join ihRight
  | repeated count body ih => exact .repeated count ih
  | group _ body ih => exact ih

/-- An expression is found in a text if it matches some part of it. -/
theorem Regex.isFoundIn_iff (r : Regex) (text : List Char) :
    r.isFoundIn text = true ↔ ∃ i j, i ≤ text.length ∧ r.Spans text i j := by
  let everywhere : List Bool := (edgesOf text).map fun _ => true
  have hlength : everywhere.length = text.length + 1 := by
    rw [List.length_map, length_edgesOf]
  have hmarked : ∀ i, Marked everywhere i ↔ i ≤ text.length := by
    intro i
    refine ⟨fun h => ?_, fun h => ?_⟩
    · have hlt := h.lt
      omega
    · simp only [Marked, everywhere, List.getElem?_map, getElem?_edgesOf h, Option.map_some]
  have hfound : r.isFoundIn text = true ↔ ∃ j, Marked (r.reach (edgesOf text) everywhere) j := by
    rw [isFoundIn, List.any_eq_true]
    simp only [id_eq, exists_eq_right, List.mem_iff_getElem?]
    rfl
  rw [hfound]
  simp only [(r.transports_reach text).marked everywhere hlength, hmarked]
  exact exists_comm

/-- Only the first place of a text has nothing before it. -/
theorem eq_zero_of_textStart {text : List Char} {i : Nat} (hi : i ≤ text.length)
    (h : Place.textStart.holds (edgeAt text i).before (edgeAt text i).after = true) : i = 0 := by
  cases i with
  | zero => rfl
  | succ i =>
      have hbehind : text.length ≤ i := by simpa [Place.holds, edgeAt] using h
      omega

/-- Between the ends of a text, an expression has to match all of it. -/
theorem Regex.isFoundIn_anchored_iff (r : Regex) (text : List Char) :
    (Regex.both (.place .textStart) (.both r (.place .textEnd))).isFoundIn text = true ↔
      r.Spans text 0 text.length := by
  rw [isFoundIn_iff]
  constructor
  · rintro ⟨i, j, hi, k, ⟨rfl, hstart⟩, l, hspan, rfl, hend⟩
    obtain rfl := eq_zero_of_textStart hi hstart
    have hl : l < text.length + 1 := (r.transports_reach text).lt (Nat.succ_pos _) hspan
    have hlast : text.length ≤ l := by simpa [Place.holds, edgeAt] using hend
    rwa [Nat.le_antisymm hlast (Nat.le_of_lt_succ hl)]
  · intro hspan
    exact ⟨0, text.length, Nat.zero_le _, 0, ⟨rfl, rfl⟩, text.length, hspan, rfl,
      by simp [Place.holds, edgeAt]⟩

end CsvSchema.Pattern
