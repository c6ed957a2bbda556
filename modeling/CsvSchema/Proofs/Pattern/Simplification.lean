import Mathlib.Data.List.SplitBy
import CsvSchema.Pattern.Size
import CsvSchema.Proofs.Pattern.Matching

/-!
# Simple forms of regular expressions

The simple form of an expression, from which its size is measured, matches what the expression
matches, `Regex.spans_simplify`.  It has no empty parts, so it is rebuilt from its parts, and an
expression between the two ends of a text is no smaller than by itself,
`Regex.machineSize_le_anchored`.
-/

namespace CsvSchema.Pattern

namespace CharSet

theorem holdsCode_cons (range : CharRange) (set : CharSet) (code : Nat) :
    holdsCode (range :: set) code = (range.holds code || holdsCode set code) := rfl

/-- Merging ranges that stand in order keeps their code points. -/
theorem holdsCode_absorb {range : CharRange} {set : CharSet}
    (h : (range :: set).Pairwise fun a b => a.first ≤ b.first) (code : Nat) :
    holdsCode (absorb range set) code = holdsCode (range :: set) code := by
  induction set generalizing range with
  | nil => rfl
  | cons next rest ih =>
      obtain ⟨hrange, hnext⟩ := List.pairwise_cons.1 h
      obtain ⟨hbefore, hrest⟩ := List.pairwise_cons.1 hnext
      have hle : range.first ≤ next.first := hrange next List.mem_cons_self
      unfold absorb
      split
      · next htouch =>
        have hmerged : (⟨range.first, max range.last next.last⟩ :: rest : CharSet).Pairwise
            fun a b => a.first ≤ b.first :=
          List.pairwise_cons.2 ⟨fun b hb => Nat.le_trans hle (hbefore b hb), hrest⟩
        rw [ih hmerged]
        simp only [holdsCode_cons, ← Bool.or_assoc]
        congr 1
        rw [Bool.eq_iff_iff]
        simp only [CharRange.holds, Bool.or_eq_true, Bool.and_eq_true, decide_eq_true_eq]
        omega
      · rw [holdsCode_cons, ih hnext, holdsCode_cons range]

/-- The normal form of a set holds the same code points. -/
theorem holdsCode_normal (set : CharSet) (code : Nat) :
    holdsCode (normal set) code = holdsCode set code := by
  let sorted := set.mergeSort fun a b => a.first ≤ b.first
  have hsorted : sorted.Pairwise fun a b => a.first ≤ b.first := by
    refine (List.pairwise_mergeSort (fun a b c => ?_) (fun a b => ?_) set).imp ?_
    · simpa using Nat.le_trans
    · simpa using Nat.le_total a.first b.first
    · simp
  have hsame : holdsCode sorted code = holdsCode set code := by
    rw [Bool.eq_iff_iff]
    simp only [holdsCode, List.any_eq_true, sorted, List.mem_mergeSort]
  rw [← hsame]
  unfold normal
  split
  · next hnil => rw [show sorted = [] from hnil]
  · next range rest hcons =>
    rw [show sorted = range :: rest from hcons] at hsorted ⊢
    exact holdsCode_absorb hsorted code

end CharSet

theorem Count.admits_exactly_iff (n m : Nat) : (⟨n, some n⟩ : Count).Admits m ↔ m = n := by
  simp only [Count.Admits, Option.some.injEq, forall_eq']
  omega

theorem take_sharedFront {α : Type} [DecidableEq α] (as bs : List α) :
    as.take (sharedFront as bs) <+: bs := by
  induction as generalizing bs with
  | nil => exact List.nil_prefix
  | cons a as ih =>
      cases bs with
      | nil => exact List.nil_prefix
      | cons b bs =>
          unfold sharedFront
          split
          · next heq =>
            rw [List.take_succ_cons, heq]
            exact (List.prefix_cons_inj b).2 (ih bs)
          · exact List.nil_prefix

/-- What some lists share at the front is at the front of each of them. -/
theorem foldl_take_sharedFront {α : Type} [DecidableEq α] (first : List α)
    (others : List (List α)) : ∀ items ∈ first :: others,
      others.foldl (fun front items => front.take (sharedFront front items)) first <+: items := by
  induction others generalizing first with
  | nil => simp
  | cons next others ih =>
      have hshorter := ih (first.take (sharedFront first next))
      intro items hitems
      obtain rfl | rfl | hitems : items = first ∨ items = next ∨ items ∈ others := by
        simpa using hitems
      · exact (hshorter _ List.mem_cons_self).trans (List.take_prefix _ _)
      · exact (hshorter _ List.mem_cons_self).trans (take_sharedFront _ _)
      · exact hshorter items (List.mem_cons_of_mem _ hitems)

namespace Regex

section Meaning

variable {text : List Char} {i j : Nat}

theorem spans_sequence_cons (r : Regex) (rs : List Regex) :
    (sequence (r :: rs)).Spans text i j ↔
      ∃ k, r.Spans text i k ∧ (sequence rs).Spans text k j := by
  cases rs with
  | nil => simp [sequence, Spans]
  | cons _ _ => rfl

theorem spans_sequence_append (as bs : List Regex) :
    (sequence (as ++ bs)).Spans text i j ↔
      ∃ k, (sequence as).Spans text i k ∧ (sequence bs).Spans text k j := by
  induction as generalizing i with
  | nil => simp [sequence, Spans]
  | cons a as ih =>
      rw [List.cons_append]
      simp only [spans_sequence_cons, ih]
      constructor
      · rintro ⟨k, hfirst, l, hmore, hrest⟩
        exact ⟨l, ⟨k, hfirst, hmore⟩, hrest⟩
      · rintro ⟨l, ⟨k, hfirst, hmore⟩, hrest⟩
        exact ⟨k, hfirst, l, hmore, hrest⟩

/-- An expression matches what its parts match one after another. -/
theorem spans_parts (r : Regex) : (sequence r.parts).Spans text i j ↔ r.Spans text i j := by
  induction r generalizing i j with
  | both first second ihFirst ihSecond =>
      show (sequence (first.parts ++ second.parts)).Spans text i j ↔ _
      simp only [spans_sequence_append, ihFirst, ihSecond]
      rfl
  | _ => rfl

theorem flatten_items (r : Regex) : r.items.flatten = r.parts := List.flatten_splitBy _ _

theorem spans_choice {rs : List Regex} (hrs : rs ≠ []) :
    (choice rs).Spans text i j ↔ ∃ r ∈ rs, r.Spans text i j := by
  induction rs with
  | nil => exact absurd rfl hrs
  | cons r rs ih =>
      cases rs with
      | nil => simp [choice]
      | cons next rest =>
          show (r.Spans text i j ∨ (choice (next :: rest)).Spans text i j) ↔ _
          rw [ih (List.cons_ne_nil _ _)]
          simp only [List.mem_cons, exists_eq_or_imp]

/-- An expression matches what one of its branches matches. -/
theorem spans_branches (r : Regex) :
    (∃ b ∈ r.branches, b.Spans text i j) ↔ r.Spans text i j := by
  induction r with
  | either left right ihLeft ihRight =>
      show (∃ b ∈ left.branches ++ right.branches, b.Spans text i j) ↔
        left.Spans text i j ∨ right.Spans text i j
      simp only [List.mem_append, or_and_right, exists_or, ihLeft, ihRight]
  | _ => simp only [branches, List.mem_singleton, exists_eq_left]

theorem spans_flatMap_branches (rs : List Regex) :
    (∃ b ∈ rs.flatMap branches, b.Spans text i j) ↔ ∃ r ∈ rs, r.Spans text i j := by
  constructor
  · rintro ⟨b, hb, hspan⟩
    obtain ⟨r, hr, hb⟩ := List.mem_flatMap.1 hb
    exact ⟨r, hr, (spans_branches r).1 ⟨b, hb, hspan⟩⟩
  · rintro ⟨r, hr, hspan⟩
    obtain ⟨b, hb, hspan⟩ := (spans_branches r).2 hspan
    exact ⟨b, List.mem_flatMap.2 ⟨r, hr, hb⟩, hspan⟩

theorem eq_map_chars {rs : List Regex} {sets : List CharSet} (h : rs.mapM set? = some sets) :
    rs = sets.map chars := by
  induction rs generalizing sets with
  | nil =>
      obtain rfl : [] = sets := Option.some.inj h
      rfl
  | cons r rs ih =>
      simp only [List.mapM_cons, Option.bind_eq_bind, Option.bind_eq_some_iff] at h
      obtain ⟨set, hset, others, hothers, hsets⟩ := h
      obtain rfl : set :: others = sets := Option.some.inj hsets
      rw [List.map_cons, ← ih hothers]
      cases r <;> cases hset
      rfl

theorem isIn_normal_flatten (sets : List CharSet) (c : Option Char) :
    isIn (CharSet.normal sets.flatten) c = true ↔ ∃ set ∈ sets, isIn set c = true := by
  cases c with
  | none => simp [isIn]
  | some c =>
      show CharSet.holdsCode (CharSet.normal sets.flatten) c.toNat = true ↔ _
      rw [CharSet.holdsCode_normal, CharSet.holdsCode, List.any_flatten, List.any_eq_true]
      rfl

/-- A choice that is one set matches what its branches match. -/
theorem spans_of_commonSet? {rs : List Regex} {set : CharSet} (h : commonSet? rs = some set) :
    (chars set).Spans text i j ↔ ∃ r ∈ rs, r.Spans text i j := by
  obtain ⟨sets, hsets, hset⟩ := Option.bind_eq_some_iff.1 h
  obtain rfl := eq_map_chars hsets
  split at hset
  · cases hset
    simp only [Spans, isIn_normal_flatten, List.mem_map, exists_exists_and_eq_and]
    constructor
    · rintro ⟨hj, s, hs, hin⟩
      exact ⟨s, hs, hj, hin⟩
    · rintro ⟨s, hs, hj, hin⟩
      exact ⟨hj, s, hs, hin⟩
  · cases hset

theorem spans_oneOf {rs : List Regex} (hrs : rs ≠ []) :
    (oneOf rs).Spans text i j ↔ ∃ r ∈ rs, r.Spans text i j := by
  unfold oneOf
  split
  · next hset => exact spans_of_commonSet? hset
  · exact spans_choice hrs

/-- What is put in front of a choice is at the front of the items of each branch. -/
theorem exists_shared_of_commonFront? {rs front rests : List Regex}
    (h : commonFront? rs = some (front, rests)) :
    ∃ shared : List (List Regex), (∀ r ∈ rs, shared <+: r.items) ∧ front = shared.flatten ∧
      rests = rs.map fun r => sequence (r.items.drop shared.length).flatten := by
  unfold commonFront? at h
  split at h
  · cases h
  · next first others hitems =>
    dsimp only at h
    split at h
    · cases h
    · obtain ⟨rfl, rfl⟩ := Prod.mk.inj (Option.some.inj h)
      refine ⟨_, fun r hr => ?_, rfl, by rw [← hitems, List.map_map]; rfl⟩
      have hmem : r.items ∈ first :: others := hitems ▸ List.mem_map_of_mem hr
      exact (List.takeWhile_prefix _).trans (foldl_take_sharedFront first others _ hmem)

theorem spans_of_commonFront? {rs front rests : List Regex}
    (h : commonFront? rs = some (front, rests)) :
    (∃ r ∈ rs, r.Spans text i j) ↔
      ∃ k, (sequence front).Spans text i k ∧ ∃ rest ∈ rests, rest.Spans text k j := by
  obtain ⟨shared, hshared, rfl, rfl⟩ := exists_shared_of_commonFront? h
  have hsplit : ∀ r ∈ rs, (r.Spans text i j ↔ ∃ k, (sequence shared.flatten).Spans text i k ∧
      (sequence (r.items.drop shared.length).flatten).Spans text k j) := by
    intro r hr
    rw [← spans_sequence_append, ← List.flatten_append,
      List.prefix_iff_eq_append.1 (hshared r hr), flatten_items, spans_parts]
  simp only [List.mem_map, exists_exists_and_eq_and]
  constructor
  · rintro ⟨r, hr, hspan⟩
    obtain ⟨k, hfront, hrest⟩ := (hsplit r hr).1 hspan
    exact ⟨k, hfront, r, hr, hrest⟩
  · rintro ⟨k, hfront, r, hr, hrest⟩
    exact ⟨r, hr, (hsplit r hr).2 ⟨k, hfront, hrest⟩⟩

theorem branches_ne_nil (r : Regex) : r.branches ≠ [] := by
  induction r with
  | either left right ihLeft _ => exact List.append_ne_nil_of_left_ne_nil ihLeft _
  | _ => exact List.cons_ne_nil _ _

theorem rests_ne_nil {rs front rests : List Regex} (h : commonFront? rs = some (front, rests)) :
    rests ≠ [] := by
  obtain ⟨_, _, _, rfl⟩ := exists_shared_of_commonFront? h
  rintro hnil
  rw [List.map_eq_nil_iff.1 hnil] at h
  cases h

theorem flatMap_branches_ne_nil {rs : List Regex} (hrs : rs ≠ []) : rs.flatMap branches ≠ [] := by
  obtain ⟨r, rest, rfl⟩ := List.exists_cons_of_ne_nil hrs
  rw [List.flatMap_cons]
  exact List.append_ne_nil_of_left_ne_nil r.branches_ne_nil _

theorem spans_simpleChoice {rs : List Regex} (hrs : rs ≠ []) :
    (simpleChoice rs).Spans text i j ↔ ∃ r ∈ rs, r.Spans text i j := by
  unfold simpleChoice
  split
  · simp
  · rw [← spans_flatMap_branches]
    dsimp only
    split
    · next front rests hfront =>
      rw [spans_of_commonFront? hfront, spans_sequence_append]
      simp only [spans_parts, spans_flatMap_branches,
        spans_oneOf (flatMap_branches_ne_nil (rests_ne_nil hfront))]
    · exact spans_oneOf (flatMap_branches_ne_nil hrs)

/-- What consumes nothing ends where it starts. -/
theorem Spans.eq_of_consumesNothing {r : Regex} (hr : r.consumesNothing = true)
    (h : r.Spans text i j) : i = j := by
  induction r generalizing i j with
  | empty => exact h
  | chars set => cases hr
  | place p => exact h.1
  | both first second ihFirst ihSecond =>
      obtain ⟨hfirst, hsecond⟩ := Bool.and_eq_true_iff.1 hr
      obtain ⟨k, hspan, hrest⟩ := h
      exact (ihFirst hfirst hspan).trans (ihSecond hsecond hrest)
  | either left right ihLeft ihRight =>
      obtain ⟨hleft, hright⟩ := Bool.and_eq_true_iff.1 hr
      exact h.elim (ihLeft hleft) (ihRight hright)
  | repeated count body ih =>
      obtain ⟨n, -, hrounds⟩ := h
      induction n generalizing i with
      | zero => exact hrounds
      | succ n ihn =>
          obtain ⟨k, hround, hrest⟩ := hrounds
          exact (ih hr hround).trans (ihn hrest)
  | group _ body ih => exact ih hr h

theorem times_of_consumesNothing {r : Regex} (hr : r.consumesNothing = true) (n : Nat) :
    Times (r.Spans text) n i j ↔ i = j ∧ (n = 0 ∨ r.Spans text i i) := by
  induction n generalizing i with
  | zero => simp [Times]
  | succ n ih =>
      simp only [Times, ih, Nat.succ_ne_zero, false_or]
      constructor
      · rintro ⟨k, hround, rfl, -⟩
        obtain rfl := hround.eq_of_consumesNothing hr
        exact ⟨rfl, hround⟩
      · rintro ⟨rfl, hround⟩
        exact ⟨i, hround, rfl, .inr hround⟩

/-- It does not matter how often something is repeated that consumes nothing. -/
theorem spans_repeated_of_consumesNothing {r : Regex} (hr : r.consumesNothing = true)
    (count : Count) :
    (repeated count r).Spans text i j ↔ i = j ∧ (count.min = 0 ∨ r.Spans text i i) := by
  simp only [Spans, times_of_consumesNothing hr]
  constructor
  · rintro ⟨n, ⟨hmin, -⟩, rfl, rfl | hround⟩
    · exact ⟨rfl, .inl (Nat.le_zero.1 hmin)⟩
    · exact ⟨rfl, .inr hround⟩
  · rintro ⟨rfl, hround⟩
    exact ⟨count.min, ⟨Nat.le_refl _, fun _ _ => .inr rfl⟩, rfl, hround⟩

theorem spans_simpleRepetition (count : Count) (r : Regex) :
    (simpleRepetition count r).Spans text i j ↔ (repeated count r).Spans text i j := by
  unfold simpleRepetition
  extract_lets limited
  have hlimited : (repeated limited r).Spans text i j ↔ (repeated count r).Spans text i j := by
    by_cases hr : r.consumesNothing = true
    · have hmin : limited.min = 0 ↔ count.min = 0 := by
        simp only [limited, if_pos hr]
        omega
      rw [spans_repeated_of_consumesNothing hr, spans_repeated_of_consumesNothing hr, hmin]
    · rw [show limited = count from if_neg hr]
  rw [← hlimited]
  split
  · next hcount =>
    rw [hcount]
    simp [Spans, Count.admits_exactly_iff, Times]
  · split
    · next hcount =>
      rw [hcount]
      simp [Spans, Count.admits_exactly_iff, Times]
    · rfl

theorem simpleBranches_ne_nil (r : Regex) : r.simpleBranches ≠ [] := by
  induction r with
  | either left right ihLeft _ => exact List.append_ne_nil_of_left_ne_nil ihLeft _
  | _ => exact List.cons_ne_nil _ _

theorem spans_simpleBranches (r : Regex) :
    (∃ b ∈ r.simpleBranches, b.Spans text i j) ↔ r.Spans text i j := by
  induction r generalizing i j with
  | empty | chars _ | place _ => simp only [simpleBranches, List.mem_singleton, exists_eq_left]
  | both first second ihFirst ihSecond =>
      simp only [simpleBranches, List.mem_singleton, exists_eq_left, spans_sequence_append,
        spans_parts, spans_simpleChoice (simpleBranches_ne_nil _), ihFirst, ihSecond]
      rfl
  | either left right ihLeft ihRight =>
      simp only [simpleBranches, List.mem_append, or_and_right, exists_or, ihLeft, ihRight]
      rfl
  | repeated count body ih =>
      have hbody : (simpleChoice body.simpleBranches).Spans text = body.Spans text := by
        ext i j
        exact (spans_simpleChoice (simpleBranches_ne_nil _)).trans ih
      simp only [simpleBranches, List.mem_singleton, exists_eq_left, spans_simpleRepetition, Spans,
        hbody]
  | group captures body ih =>
      simp only [simpleBranches, List.mem_singleton, exists_eq_left]
      cases captures with
      | false => exact (spans_simpleChoice (simpleBranches_ne_nil _)).trans ih
      | true => exact (spans_simpleChoice (simpleBranches_ne_nil _)).trans ih

/-- The simple form of an expression matches what the expression matches. -/
theorem spans_simplify (r : Regex) : r.simplify.Spans text i j ↔ r.Spans text i j :=
  (spans_simpleChoice r.simpleBranches_ne_nil).trans r.spans_simpleBranches

end Meaning

section Sizes

/-- The parts of an expression have no parts of their own. -/
theorem parts_of_mem_parts {r part : Regex} (h : part ∈ r.parts) : part.parts = [part] := by
  induction r with
  | empty => cases h
  | both first second ihFirst ihSecond => exact (List.mem_append.1 h).elim ihFirst ihSecond
  | _ =>
      obtain rfl := List.mem_singleton.1 h
      rfl

theorem parts_sequence {rs : List Regex} (h : ∀ r ∈ rs, r.parts = [r]) :
    (sequence rs).parts = rs := by
  induction rs with
  | nil => rfl
  | cons r rs ih =>
      obtain ⟨hr, hrs⟩ := List.forall_mem_cons.1 h
      cases rs with
      | nil => exact hr
      | cons next rest =>
          show r.parts ++ (sequence (next :: rest)).parts = _
          rw [hr, ih hrs]
          rfl

/-- Whether an expression is its parts one after another, without an empty one. -/
def IsTidy (r : Regex) : Prop := sequence r.parts = r

theorem IsTidy.sequence {rs : List Regex} (h : ∀ r ∈ rs, r.parts = [r]) :
    (sequence rs).IsTidy := by
  rw [IsTidy, parts_sequence h]

theorem IsTidy.choice {rs : List Regex} (h : 2 ≤ rs.length) : (choice rs).IsTidy := by
  match rs, h with
  | _ :: _ :: _, _ => rfl

theorem IsTidy.oneOf {rs : List Regex} (h : 2 ≤ rs.length) : (oneOf rs).IsTidy := by
  unfold Regex.oneOf
  split
  · rfl
  · exact .choice h

theorem parts_of_mem_front {rs front rests : List Regex} (hrs : rs ≠ [])
    (h : commonFront? rs = some (front, rests)) : ∀ r ∈ front, r.parts = [r] := by
  obtain ⟨shared, hshared, rfl, -⟩ := exists_shared_of_commonFront? h
  obtain ⟨first, others, rfl⟩ := List.exists_cons_of_ne_nil hrs
  intro r hr
  obtain ⟨item, hitem, hr⟩ := List.mem_flatten.1 hr
  have hfirst : r ∈ first.items.flatten :=
    List.mem_flatten.2 ⟨item, (hshared first List.mem_cons_self).subset hitem, hr⟩
  exact parts_of_mem_parts (first.flatten_items ▸ hfirst)

theorem IsTidy.simpleChoice {rs : List Regex} (h : ∀ r ∈ rs, r.IsTidy) :
    (simpleChoice rs).IsTidy := by
  match rs with
  | [] => rfl
  | [r] => exact h r (List.mem_singleton_self r)
  | a :: b :: rest =>
      unfold Regex.simpleChoice
      have hlength : 2 ≤ ((a :: b :: rest).flatMap branches).length := by
        have ha := List.length_pos_iff.2 a.branches_ne_nil
        have hb := List.length_pos_iff.2 b.branches_ne_nil
        simp only [List.flatMap_cons, List.length_append]
        omega
      dsimp only
      split
      · next front rests hfront =>
        refine .sequence fun r hr => ?_
        obtain hr | hr := List.mem_append.1 hr
        · exact parts_of_mem_front (flatMap_branches_ne_nil (List.cons_ne_nil _ _)) hfront r hr
        · exact parts_of_mem_parts hr
      · exact .oneOf hlength

theorem IsTidy.simpleRepetition {r : Regex} (count : Count) (h : r.IsTidy) :
    (simpleRepetition count r).IsTidy := by
  unfold Regex.simpleRepetition
  extract_lets limited
  split
  · rfl
  · split
    · exact h
    · rfl

theorem isTidy_of_mem_simpleBranches {r branch : Regex} (h : branch ∈ r.simpleBranches) :
    branch.IsTidy := by
  induction r generalizing branch with
  | empty | chars _ | place _ =>
      obtain rfl := List.mem_singleton.1 h
      rfl
  | both first second _ _ =>
      obtain rfl := List.mem_singleton.1 h
      refine .sequence fun r hr => ?_
      exact (List.mem_append.1 hr).elim parts_of_mem_parts parts_of_mem_parts
  | either left right ihLeft ihRight => exact (List.mem_append.1 h).elim ihLeft ihRight
  | repeated count body ih =>
      obtain rfl := List.mem_singleton.1 h
      exact .simpleRepetition count (.simpleChoice fun r => ih)
  | group captures body ih =>
      obtain rfl := List.mem_singleton.1 h
      cases captures with
      | false => exact .simpleChoice fun r => ih
      | true => rfl

/-- A simple form has no empty parts. -/
theorem isTidy_simplify (r : Regex) : r.simplify.IsTidy :=
  .simpleChoice fun _ => isTidy_of_mem_simpleBranches

theorem total_cons (size : Nat) (sizes : List Nat) : total (size :: sizes) = size + total sizes :=
  rfl

theorem total_append (as bs : List Nat) : total (as ++ bs) = total as + total bs := by
  induction as with
  | nil => exact (Nat.zero_add _).symm
  | cons a as ih => rw [List.cons_append, total_cons, total_cons, ih, Nat.add_assoc]

theorem size_sequence {rs : List Regex} (hrs : rs ≠ []) (direction : Direction) :
    (sequence rs).size direction = total (rs.map (size direction)) := by
  induction rs with
  | nil => exact absurd rfl hrs
  | cons r rs ih =>
      cases rs with
      | nil => rfl
      | cons next rest =>
          show r.size direction + (sequence (next :: rest)).size direction = _
          rw [ih (List.cons_ne_nil _ _)]
          rfl

/-- The simple form of an expression between the two ends of a text. -/
theorem simplify_anchored (r : Regex) :
    (both (place .textStart) (both (group false r) (place .textEnd))).simplify =
      sequence (.place .textStart :: (r.simplify.parts ++ [.place .textEnd])) := by
  have hinner : ∀ part ∈ r.simplify.parts ++ [place .textEnd], part.parts = [part] := by
    intro part hpart
    obtain hpart | hpart := List.mem_append.1 hpart
    · exact parts_of_mem_parts hpart
    · rw [List.mem_singleton.1 hpart]
      rfl
  show sequence ([place .textStart] ++
    (sequence (r.simplify.parts ++ [place .textEnd])).parts) = _
  rw [parts_sequence hinner]
  rfl

theorem size_simplify_le (r : Regex) (direction : Direction) :
    r.simplify.size direction ≤
      (sequence (.place .textStart :: (r.simplify.parts ++ [.place .textEnd]))).size direction := by
  have htidy : sequence r.simplify.parts = r.simplify := r.isTidy_simplify
  rw [size_sequence (List.cons_ne_nil _ _)]
  cases hparts : r.simplify.parts with
  | nil =>
      rw [← htidy, hparts]
      exact Nat.le_add_right stateSize _
  | cons part rest =>
      rw [← htidy, size_sequence (hparts ▸ List.cons_ne_nil _ _), hparts]
      simp only [List.map_cons, List.map_append, total_cons, total_append]
      omega

/-- Between the two ends of a text, an expression is no smaller. -/
theorem machineSize_le_anchored (r : Regex) :
    r.machineSize ≤
      (both (place .textStart) (both (group false r) (place .textEnd))).machineSize := by
  have hforward := r.size_simplify_le .forward
  have hbackward := r.size_simplify_le .backward
  rw [machineSize, machineSize, simplify_anchored]
  omega

end Sizes

end Regex

end CsvSchema.Pattern
