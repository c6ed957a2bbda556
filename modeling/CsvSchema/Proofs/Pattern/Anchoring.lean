import CsvSchema.Pattern.Basic
import CsvSchema.Proofs.Pattern.Classes
import CsvSchema.Proofs.Pattern.Groups
import CsvSchema.Proofs.Pattern.Simplification

/-!
# Anchored patterns

A pattern is anchored by its text: it is put between the start of a group and its end.  Reading
inside this group goes the same way as reading the pattern by itself, until the pattern ends, or
until it closes the group too early, `readFrom?_inside`.  A pattern that does not do that is a
pattern by itself, and it is matched if it matches the whole text, `isFullMatch_iff_spans`.
-/

namespace CsvSchema.Pattern

/-- Reading meets a closing parenthesis while no group is open. -/
inductive ClosesOutside : ReadState → List Char → Prop
  | here {state : ReadState} {s rest : List Char} (hs : skip state.ignoring s = ')' :: rest)
      (hclose : state.closeGroup? = none) : ClosesOutside state s
  | later {state next : ReadState} {s rest more : List Char} {c : Char}
      (hs : skip state.ignoring s = c :: rest) (hstep : readStep? state c rest = some (next, more))
      (hmore : ClosesOutside next more) : ClosesOutside state s

namespace ReadState

/-- The state inside the group around an anchored pattern, by the state of the pattern. -/
def inside (state : ReadState) : ReadState :=
  { state with
    stack := state.stack ++ [.group [.atom (.assertion .lineStart)] false [] false] }

variable (state : ReadState)

@[simp] theorem inside_ignoring : state.inside.ignoring = state.ignoring := rfl

theorem push_inside (e : Expression) : state.inside.push e = (state.push e).inside := rfl

theorem nextBranch_inside : state.inside.nextBranch = state.nextBranch.inside := by
  obtain ⟨ignoring, items, _ | ⟨_ | done, stack⟩, names⟩ := state <;> rfl

theorem popBranches_inside : state.inside.popBranches =
    (state.popBranches.1,
      state.popBranches.2 ++ [.group [.atom (.assertion .lineStart)] false [] false]) := by
  obtain ⟨ignoring, items, _ | ⟨_ | done, stack⟩, names⟩ := state <;> rfl

theorem openGroup?_inside (start : GroupStart) :
    state.inside.openGroup? start = (state.openGroup? start).map inside := by
  cases start with
  | settings settings => rfl
  | group name captures settings =>
      simp only [openGroup?]
      split <;> (rename_i h; simp only [inside] at h; simp [h, inside])

theorem closeGroup?_inside (h : state.closeGroup? ≠ none) :
    state.inside.closeGroup? = state.closeGroup?.map inside := by
  unfold closeGroup? at h ⊢
  rw [popBranches_inside]
  rcases hpop : state.popBranches with ⟨body, _ | ⟨_ | done, stack⟩⟩
  · rw [hpop] at h
    exact absurd rfl h
  · rfl
  · rw [hpop] at h
    exact absurd rfl h

theorem repeatLast?_inside (count : Count) :
    state.inside.repeatLast? count = (state.repeatLast? count).map inside := by
  obtain ⟨ignoring, _ | ⟨_ | _, items⟩, stack, names⟩ := state <;> rfl

/-- As long as the group around a pattern is open, the pattern has not ended. -/
theorem finish?_inside : state.inside.finish? = none := by
  unfold finish?
  rw [popBranches_inside]
  obtain ⟨body, _ | ⟨frame, stack⟩⟩ := state.popBranches <;> rfl

end ReadState

section Steps

variable (state : ReadState)

/-- A step inside the group is a step of the pattern by itself, unless it closes the group. -/
theorem readStep?_inside {c : Char} (hclose : c = ')' → state.closeGroup? ≠ none)
    (s : List Char) :
    readStep? state.inside c s = (readStep? state c s).map fun p => (p.1.inside, p.2) := by
  unfold readStep?
  simp only [ReadState.inside_ignoring]
  -- Every kind of step changes the innermost group, and leaves the one around all of them alone.
  split
  · cases readGroupStart? state.ignoring s with
    | none => rfl
    | some found => simp [ReadState.openGroup?_inside, Function.comp_def]
  · rw [ReadState.closeGroup?_inside state (hclose rfl)]
    simp [Function.comp_def]
  · rw [ReadState.nextBranch_inside]
    rfl
  · simp [ReadState.push_inside, Function.comp_def]
  · simp [ReadState.repeatLast?_inside, Function.comp_def]
  · simp [ReadState.repeatLast?_inside, Function.comp_def]
  · simp [ReadState.repeatLast?_inside, Function.comp_def]
  · cases readCount? state.ignoring s with
    | none => rfl
    | some found => simp [ReadState.repeatLast?_inside, Function.comp_def]
  · simp [ReadState.push_inside, Function.comp_def]

theorem dropLazyMark_append (s : List Char) :
    dropLazyMark (s ++ anchorTail) = dropLazyMark s ++ anchorTail := by
  cases s with
  | nil => rfl
  | cons c rest =>
      by_cases hc : c = '?'
      · rw [hc]
        rfl
      · simp [dropLazyMark, hc]

theorem dropLazyMark_suffix (s : List Char) : dropLazyMark s <:+ s := by
  unfold dropLazyMark
  split
  · exact List.suffix_cons _ _
  · exact List.suffix_rfl

/-- A mark for a lazy repetition may follow what was read. -/
theorem Reads.lazy {α : Type} {loss : Loss} (found : Option α) :
    Reads loss fun rest => found.map (·, dropLazyMark rest) where
  suffix h := by
    obtain ⟨x, -, hx⟩ := Option.map_eq_some_iff.1 h
    cases hx
    exact dropLazyMark_suffix _
  agrees s := by
    rw [dropLazyMark_append]
    cases found with
    | none => exact .none _
    | some x => exact .some x _

/-- A character that starts an atom. -/
def StartsAtom (c : Char) : Prop :=
  c ≠ '(' ∧ c ≠ ')' ∧ c ≠ '|' ∧ c ≠ '[' ∧ c ≠ '?' ∧ c ≠ '*' ∧ c ≠ '+' ∧ c ≠ '\x7b'

theorem readStep?_atom {c : Char} (hc : StartsAtom c) (s : List Char) : readStep? state c s =
    (readAtom? state.ignoring c s).map fun found => (state.push (.atom found.1), found.2) := by
  obtain ⟨h₁, h₂, h₃, h₄, h₅, h₆, h₇, h₈⟩ := hc
  simp [readStep?, *]

/-- A step that reads no atom is the same in front of the tail as without it. -/
theorem reads_readStep? {loss : Loss} {c : Char} (hc : ¬StartsAtom c) :
    Reads loss (readStep? state c) := by
  have hcases : c = '(' ∨ c = ')' ∨ c = '|' ∨ c = '[' ∨ c = '?' ∨ c = '*' ∨ c = '+' ∨
      c = '\x7b' := by
    unfold StartsAtom at hc
    tauto
  rcases hcases with rfl | rfl | rfl | rfl | rfl | rfl | rfl | rfl
  · exact (reads_readGroupStart? state.ignoring).bind fun start => .lookup _
  · exact .lookup _
  · exact .found _
  · exact (reads_readClass? state.ignoring).map state.push
  · exact .lazy _
  · exact .lazy _
  · exact .lazy _
  · exact (reads_readCount? state.ignoring).bind fun count => (Reads.lazy _).skip state.ignoring

theorem readAtom?_suffix {ignoring : Bool} {c : Char} {s rest : List Char} {atom : Atom}
    (h : readAtom? ignoring c s = some (atom, rest)) : rest <:+ s := by
  unfold readAtom? at h
  split at h
  · exact readEscape?_suffix ignoring h
  all_goals
    cases h
    exact List.suffix_rfl

theorem atomAgrees_readAtom? (loss : Loss) (ignoring : Bool) (c : Char) (s : List Char) :
    AtomAgrees ignoring loss (readAtom? ignoring c (s ++ anchorTail)) (readAtom? ignoring c s) := by
  unfold readAtom?
  split
  · exact atomAgrees_readEscape? ignoring s
  all_goals exact (Agrees.some _ s).atom

theorem readStep?_suffix {c : Char} {s rest : List Char} {next : ReadState}
    (h : readStep? state c s = some (next, rest)) : rest <:+ s := by
  by_cases hc : StartsAtom c
  · rw [readStep?_atom state hc] at h
    obtain ⟨⟨atom, more⟩, hatom, hfound⟩ := Option.map_eq_some_iff.1 h
    cases hfound
    exact readAtom?_suffix hatom
  · have hread : Reads Loss.cut (readStep? state c) := reads_readStep? state hc
    exact hread.suffix h

/-- A step in front of the tail is a step without it, unless a part of the tail is gone or empty
braces come next. -/
theorem readStep?_append {c : Char} {s left : List Char} {next : ReadState}
    (h : readStep? state c (s ++ anchorTail) = some (next, left)) :
    left <:+ ['$'] ∨ (∃ rest, left = rest ++ anchorTail ∧ readStep? state c s = some (next, rest)) ∨
      Stuck next.ignoring left := by
  by_cases hc : StartsAtom c
  · rw [readStep?_atom state hc] at h ⊢
    obtain ⟨⟨atom, more⟩, hatom, hfound⟩ := Option.map_eq_some_iff.1 h
    cases hfound
    rcases atomAgrees_readAtom? Loss.cut state.ignoring c s atom more hatom with
      hlost | ⟨rest, rfl, halone⟩ | ⟨-, hstuck⟩
    · exact .inl hlost
    · exact .inr (.inl ⟨rest, rfl, by rw [halone]; rfl⟩)
    · exact .inr (.inr hstuck)
  · have hread : Reads Loss.cut (readStep? state c) := reads_readStep? state hc
    exact (hread.agrees s next left h).imp_right .inl

end Steps

section Reading

variable {fuel : Nat} {state : ReadState} {s rest : List Char} {c : Char}

theorem readFrom?_end (h : skip state.ignoring s = []) :
    readFrom? (fuel + 1) state s = state.finish? := by
  simp only [readFrom?, h]

theorem readFrom?_step (h : skip state.ignoring s = c :: rest) :
    readFrom? (fuel + 1) state s =
      (readStep? state c rest).bind fun found => readFrom? fuel found.1 found.2 := by
  simp only [readFrom?, h]

variable (state)

/-- With a part of the tail gone, the group around the pattern stays open. -/
theorem readFrom?_of_cut (h : s <:+ ['$']) : readFrom? fuel state.inside s = none := by
  have hend : ∀ fuel (state : ReadState), readFrom? fuel state.inside [] = none := by
    intro fuel state
    cases fuel with
    | zero => rfl
    | succ fuel =>
        rw [readFrom?_end (skip_nil _), state.finish?_inside]
  rcases List.suffix_cons_iff.1 h with rfl | hnil
  · cases fuel with
    | zero => rfl
    | succ fuel =>
        have hskip : skip state.inside.ignoring ['$'] = ['$'] := by
          rw [state.inside_ignoring]
          cases state.ignoring <;> rfl
        rw [readFrom?_step hskip]
        exact hend fuel (state.push (.atom (.assertion .lineEnd)))
  · rw [List.suffix_nil.1 hnil]
    exact hend fuel state

/-- There is no count where nothing but the tail comes. -/
theorem readCount?_of_blank {ignoring : Bool} {inside : List Char} (h : skip ignoring inside = []) :
    readCount? ignoring (inside ++ anchorTail) = none := by
  have htail : readNumber? ignoring (readCountEnd? ignoring) anchorTail = none := by
    cases ignoring <;> rfl
  have hend : readNumber? ignoring (readCountEnd? ignoring) [] = none := by
    cases ignoring <;> rfl
  obtain ⟨d, more, hd, -⟩ | ⟨-, hskip | hskip⟩ := skip_append ignoring inside
  · cases h.symm.trans hd
  · exact (congrArg (readNumber? ignoring _) hskip).trans htail
  · exact (congrArg (readNumber? ignoring _) hskip).trans hend

theorem readFrom?_of_stuck (h : Stuck state.ignoring s) : readFrom? fuel state.inside s = none := by
  obtain ⟨inside, rfl, hinside⟩ := h
  cases fuel with
  | zero => rfl
  | succ fuel =>
      have hskip : skip state.inside.ignoring ('\x7b' :: (inside ++ anchorTail)) =
          '\x7b' :: (inside ++ anchorTail) := by
        rw [state.inside_ignoring]
        cases state.ignoring <;> rfl
      have hstep : readStep? state.inside '\x7b' (inside ++ anchorTail) =
          (readCount? state.ignoring (inside ++ anchorTail)).bind fun found =>
            (state.inside.repeatLast? found.1).map
              (·, dropLazyMark (skip state.ignoring found.2)) := rfl
      rw [readFrom?_step hskip, hstep, readCount?_of_blank hinside]
      rfl

end Reading

section Wrapped

/-- An expression between the two ends of a text, as one group. -/
def framed (body : Expression) : Expression :=
  .sequence [.atom (.assertion .lineStart), .group false [] body, .atom (.assertion .lineEnd)]

variable {fuel enough : Nat} {state : ReadState} {s : List Char} {body e : Expression}

theorem ReadState.finish?_eq_some_iff :
    state.finish? = some body ↔ state.popBranches = (body, []) := by
  unfold finish?
  rcases state.popBranches with ⟨other, _ | ⟨frame, stack⟩⟩
  · simp
  · simp

/-- A pattern that has ended is followed by the end of the group around it. -/
theorem ReadState.closeGroup?_inside_of_finish (h : state.finish? = some body) :
    state.inside.closeGroup? = some
      ⟨false, [.group false [] body, .atom (.assertion .lineStart)], [], state.names⟩ := by
  unfold closeGroup?
  rw [state.popBranches_inside, finish?_eq_some_iff.1 h]
  rfl

/-- A text that ends inside a group of its own cannot be followed by the end of the pattern. -/
theorem ReadState.finish?_of_tail {next : ReadState} (h : state.inside.closeGroup? = some next)
    (hmore : readFrom? fuel next ['$'] = some e) : ∃ body, state.finish? = some body := by
  cases hclose : state.closeGroup? with
  | some inner =>
      rw [state.closeGroup?_inside (by rw [hclose]; exact Option.some_ne_none inner), hclose] at h
      cases h
      rw [readFrom?_of_cut inner List.suffix_rfl] at hmore
      cases hmore
  | none =>
      unfold closeGroup? at h hclose
      rw [state.popBranches_inside] at h
      unfold finish?
      rcases hpop : state.popBranches with ⟨body, _ | ⟨_ | done, stack⟩⟩
      · exact ⟨body, rfl⟩
      · rw [hpop] at hclose
        cases hclose
      · rw [hpop] at h
        cases h

theorem readFrom?_tail (h : readFrom? fuel state.inside anchorTail = some e) :
    ∃ body, state.finish? = some body ∧ e = framed body := by
  cases fuel with
  | zero => cases h
  | succ fuel =>
      rw [readFrom?_step (skip_anchorTail _)] at h
      obtain ⟨⟨next, left⟩, hstep, hmore⟩ := Option.bind_eq_some_iff.1 h
      obtain ⟨next, hclose, hnext⟩ := Option.map_eq_some_iff.1 hstep
      cases hnext
      obtain ⟨body, hbody⟩ := ReadState.finish?_of_tail hclose hmore
      refine ⟨body, hbody, ?_⟩
      rw [ReadState.closeGroup?_inside_of_finish hbody] at hclose
      cases hclose
      -- What is left is the dollar sign.
      cases fuel with
      | zero => cases hmore
      | succ fuel =>
          cases fuel with
          | zero => cases hmore
          | succ fuel => exact (Option.some.inj hmore).symm

/-- A step inside the group after which reading ends well is a step of the pattern by itself. -/
theorem exists_step_of_inside {c : Char} {rest : List Char}
    (hclose : c = ')' → state.closeGroup? ≠ none)
    (h : ((readStep? state.inside c (rest ++ anchorTail)).bind fun found =>
      readFrom? fuel found.1 found.2) = some e) :
    ∃ next more, readStep? state c rest = some (next, more) ∧
      readFrom? fuel next.inside (more ++ anchorTail) = some e := by
  obtain ⟨⟨next, left⟩, hstep, hmore⟩ := Option.bind_eq_some_iff.1 h
  rw [readStep?_inside state hclose] at hstep
  obtain ⟨⟨next, left⟩, hfront, hinside⟩ := Option.map_eq_some_iff.1 hstep
  cases hinside
  rcases readStep?_append state hfront with hcut | ⟨more, rfl, halone⟩ | hstuck
  · rw [readFrom?_of_cut next hcut] at hmore
    cases hmore
  · exact ⟨next, more, halone, hmore⟩
  · rw [readFrom?_of_stuck next hstuck] at hmore
    cases hmore

theorem length_lt_of_step {next : ReadState} {c : Char} {rest more : List Char}
    (hs : skip state.ignoring s = c :: rest) (hstep : readStep? state c rest = some (next, more)) :
    more.length < s.length := by
  have hrest := (skip_suffix state.ignoring s).length_le
  have hmore := (readStep?_suffix state hstep).length_le
  rw [hs, List.length_cons] at hrest
  omega

/-- Reading a pattern inside the group reads it as it is by itself, if it does not close the
group. -/
theorem readFrom?_inside (h : readFrom? fuel state.inside (s ++ anchorTail) = some e)
    (hclosed : ¬ClosesOutside state s) (henough : s.length < enough) :
    ∃ body, readFrom? enough state s = some body ∧ e = framed body := by
  induction fuel generalizing state s enough with
  | zero => cases h
  | succ fuel ih =>
      obtain ⟨enough, rfl⟩ := Nat.exists_eq_add_of_lt henough
      obtain ⟨c, rest, hs, htail⟩ | ⟨hs, htail | htail⟩ := skip_append state.ignoring s
      · rw [← state.inside_ignoring] at htail
        rw [readFrom?_step htail] at h
        have hclose : c = ')' → state.closeGroup? ≠ none := by
          rintro rfl hnone
          exact hclosed (.here hs hnone)
        obtain ⟨next, more, hstep, hmore⟩ := exists_step_of_inside hclose h
        have hshorter : more.length < s.length := length_lt_of_step hs hstep
        obtain ⟨body, hbody, he⟩ :=
          ih hmore (fun hlater => hclosed (.later hs hstep hlater))
            (Nat.lt_of_lt_of_le hshorter (Nat.le_add_right s.length enough))
        refine ⟨body, ?_, he⟩
        rw [readFrom?_step hs, hstep]
        exact hbody
      -- The pattern has ended, and what closes the group comes next.
      · have hwhole : readFrom? (fuel + 1) state.inside anchorTail = some e := by
          rw [← h, readFrom?, readFrom?]
          simp only [ReadState.inside_ignoring, htail, skip_anchorTail]
        obtain ⟨body, hbody, he⟩ := readFrom?_tail hwhole
        exact ⟨body, (readFrom?_end hs).trans hbody, he⟩
      -- What closes the group stands in a comment.
      · rw [← state.inside_ignoring] at htail
        rw [readFrom?_end htail, state.finish?_inside] at h
        cases h

/-- A closing parenthesis without a group to close makes a pattern unreadable. -/
theorem ClosesOutside.readFrom?_eq_none (h : ClosesOutside state s) :
    readFrom? fuel state s = none := by
  induction h generalizing fuel with
  | here hs hclose =>
      cases fuel with
      | zero => rfl
      | succ fuel =>
          rw [readFrom?_step hs]
          simp only [readStep?, hclose, Option.map_none, Option.bind_none]
  | later hs hstep _ ih =>
      cases fuel with
      | zero => rfl
      | succ fuel =>
          rw [readFrom?_step hs, hstep]
          exact ih

end Wrapped

section Compilation

variable {source : String} {fold : Bool}

/-- The text in front of a pattern opens the group around it. -/
theorem readFrom?_anchored (fuel : Nat) (source : String) :
    readFrom? (fuel + 2) .start (anchored source) =
      readFrom? fuel ReadState.start.inside (source.toList ++ anchorTail) := by
  have htext : anchored source =
      '^' :: '(' :: '?' :: ':' :: (source.toList ++ anchorTail) := rfl
  rw [htext]
  rfl

theorem Flags.set_nil (flags : Flags) : flags.set [] = flags := rfl

/-- Without flags, lines are not told apart. -/
theorem regex?_ends (fold : Bool) :
    (Atom.assertion .lineStart).regex? (.initial fold) = some (.place .textStart) ∧
      (Atom.assertion .lineEnd).regex? (.initial fold) = some (.place .textEnd) := ⟨rfl, rfl⟩

/-- What the frame of a pattern means. -/
theorem regex?_framed (body : Expression) : (framed body).regex? (.initial fold) =
    (body.regex? (.initial fold)).map fun r =>
      (.both (.place .textStart) (.both (.group false r.1) (.place .textEnd)), .initial fold) := by
  obtain ⟨hstart, hend⟩ := regex?_ends fold
  simp only [framed, Expression.regex?, Expression.regexes?, Flags.set_nil, hstart, Option.map_some,
    Option.bind_some]
  cases body.regex? (.initial fold) with
  | none => rfl
  | some r =>
      simp only [Option.map_some, Option.bind_some, hend]
      rfl

theorem height_le_framed (body : Expression) : body.height ≤ (framed body).height := by
  simp only [framed, Expression.height, Expression.heightOfAll]
  omega

theorem read?_eq_some_iff {text : List Char} {e : Expression} :
    read? text = some e ↔
      readFrom? (text.length + 1) .start text = some e ∧ e.height ≤ maxNesting := by
  simp [read?, Option.bind_eq_some_iff]

theorem compile?_eq_some_iff {text : List Char} {r : Regex} :
    compile? fold text = some r ↔ ∃ e flags, read? text = some e ∧
      e.regex? (.initial fold) = some (r, flags) ∧ r.machineSize ≤ maxMachineSize := by
  simp [compile?, Option.bind_eq_some_iff]

/-- A pattern that leaves the group around it open is a pattern by itself. -/
theorem compile?_of_anchored {regex : Regex} (h : compile? fold (anchored source) = some regex)
    (hclosed : ¬ClosesOutside .start source.toList) :
    ∃ r, compile? fold source.toList = some r ∧
      regex = .both (.place .textStart) (.both (.group false r) (.place .textEnd)) := by
  obtain ⟨e, flags, hread, hregex, hsize⟩ := compile?_eq_some_iff.1 h
  obtain ⟨hfrom, hheight⟩ := read?_eq_some_iff.1 hread
  have hlength : (anchored source).length + 1 = source.toList.length + 5 + 2 := by
    simp [anchored]
  rw [hlength, readFrom?_anchored] at hfrom
  obtain ⟨body, hbody, rfl⟩ := readFrom?_inside hfrom hclosed (Nat.lt_succ_self _)
  rw [regex?_framed] at hregex
  obtain ⟨⟨r, after⟩, hr, hframed⟩ := Option.map_eq_some_iff.1 hregex
  cases hframed
  have halone : read? source.toList = some body :=
    read?_eq_some_iff.2 ⟨hbody, Nat.le_trans (height_le_framed body) hheight⟩
  exact ⟨r, compile?_eq_some_iff.2
    ⟨body, after, halone, hr, Nat.le_trans r.machineSize_le_anchored hsize⟩, rfl⟩

theorem ClosesOutside.compile?_eq_none (h : ClosesOutside .start source.toList) :
    compile? fold source.toList = none := by
  simp [compile?, read?, h.readFrom?_eq_none]

end Compilation

/-- The expression that a pattern is matched with comes from its anchored text. -/
theorem compile?_of_ofSource? {source : String} {pattern : Pattern}
    (h : ofSource? source = some pattern) (fold : Bool) :
    compile? fold (anchored source) = some (if fold then pattern.folded else pattern.exact) := by
  unfold ofSource? at h
  split at h
  · next hexact hfolded =>
    cases h
    cases fold with
    | false => exact hexact
    | true => exact hfolded
  · cases h

/-- A text that makes a pattern is a regular expression by itself if and only if it does not close
the group around it, and then the pattern matches the values that the expression matches from end to
end. -/
theorem isFullMatch_iff_spans {source : String} {pattern : Pattern}
    (h : ofSource? source = some pattern) (fold : Bool) :
    (compile? fold source.toList = none ↔ ClosesOutside .start source.toList) ∧
      ∀ regex, compile? fold source.toList = some regex → ∀ value : String,
        (pattern.isFullMatch value fold = true ↔
          regex.Spans value.toList 0 value.toList.length) := by
  have hwhole := compile?_of_ofSource? h fold
  refine ⟨⟨fun hnone => ?_, ClosesOutside.compile?_eq_none⟩, fun regex hregex value => ?_⟩
  · by_contra hclosed
    obtain ⟨r, hr, -⟩ := compile?_of_anchored hwhole hclosed
    rw [hnone] at hr
    cases hr
  · have hclosed : ¬ClosesOutside .start source.toList := by
      intro houtside
      rw [houtside.compile?_eq_none] at hregex
      cases hregex
    obtain ⟨r, hr, hframed⟩ := compile?_of_anchored hwhole hclosed
    obtain rfl := Option.some.inj (hregex.symm.trans hr)
    rw [isFullMatch, hframed]
    exact (Regex.group false regex).isFoundIn_anchored_iff value.toList

/-- No character matches a digit only without regard to letter case. -/
theorem foldRange_digit {c : Char} (hc : c ∈ "0123456789".toList) :
    (foldRuns.flatMap fun run => CharSet.foldRange run ⟨c.toNat, c.toNat⟩) = [] := by
  have hall : ("0123456789".toList.all fun c =>
      (foldRuns.flatMap fun run => CharSet.foldRange run ⟨c.toNat, c.toNat⟩).isEmpty) = true := by
    decide +kernel
  exact List.isEmpty_iff.1 (List.all_eq_true.1 hall c hc)

/-- A digit is matched as it is, also without regard to letter case. -/
theorem regex?_digit {c : Char} (hc : c ∈ "0123456789".toList) (fold : Bool) :
    (Atom.literal ⟨c, false⟩).regex? (.initial fold) = some (.chars (.single c)) := by
  have hfold : CharSet.fold (CharSet.single c) = CharSet.single c := by
    simp [CharSet.fold, CharSet.single, foldRange_digit hc, CharSet.normal, CharSet.absorb]
  cases fold with
  | false => rfl
  | true => simp [Atom.regex?, Flags.literal?, Flags.fold, Flags.initial, hfold]

theorem ofSource?_eq_some {source : String} {regex : Regex}
    (h : ∀ fold, compile? fold (anchored source) = some regex) :
    ofSource? source = some ⟨source, regex, regex⟩ := by
  rw [ofSource?, h false, h true]

/-- An alternation is anchored as a whole. -/
theorem isFullMatch_iff_spans_of_alternation :
    ∃ pattern regex, ofSource? "1|2" = some pattern ∧
      compile? true "1|2".toList = some regex ∧
      (pattern.isFullMatch "2" true = true ↔ regex.Spans ['2'] 0 1) ∧
      pattern.isFullMatch "2" true = true ∧ pattern.isFullMatch "12" true = false := by
  let digits : Expression :=
    .alternation [.atom (.literal ⟨'1', false⟩), .atom (.literal ⟨'2', false⟩)]
  let branches : Regex := .either (.chars (.single '1')) (.chars (.single '2'))
  let whole : Regex :=
    .both (.place .textStart) (.both (.group false branches) (.place .textEnd))
  have hdigits : ∀ fold, digits.regex? (.initial fold) = some (branches, .initial fold) := by
    intro fold
    have hone := regex?_digit (show '1' ∈ "0123456789".toList by decide) fold
    have htwo := regex?_digit (show '2' ∈ "0123456789".toList by decide) fold
    simp [digits, branches, Expression.regex?, Expression.regexes?, hone, htwo, Regex.choice]
  -- The two digits are one set in the simple forms.
  have hset : CharSet.normal [⟨0x31, 0x31⟩, ⟨0x32, 0x32⟩] = [⟨0x31, 0x32⟩] := by
    simp [CharSet.normal, CharSet.absorb, List.mergeSort]
  have hsimple : branches.simplify = .chars [⟨0x31, 0x32⟩] := congrArg Regex.chars hset
  have hanchored : whole.machineSize ≤ maxMachineSize := by
    rw [Regex.machineSize, branches.simplify_anchored, hsimple]
    decide
  have hwhole : ∀ fold, compile? fold (anchored "1|2") = some whole := fun fold =>
    compile?_eq_some_iff.2 ⟨framed digits, .initial fold, rfl,
      by rw [regex?_framed, hdigits]; rfl, hanchored⟩
  have hpattern : ofSource? "1|2" = some ⟨"1|2", whole, whole⟩ := ofSource?_eq_some hwhole
  have hregex : compile? true "1|2".toList = some branches :=
    compile?_eq_some_iff.2 ⟨digits, .initial true, rfl, hdigits true,
      Nat.le_trans branches.machineSize_le_anchored hanchored⟩
  exact ⟨⟨"1|2", whole, whole⟩, branches, hpattern, hregex,
    (isFullMatch_iff_spans hpattern true).2 branches hregex "2", by decide, by decide⟩

/-- A closing parenthesis can end the group around a pattern, and then only one of its branches is
anchored at each end; the pattern is not a regular expression by itself. -/
theorem isFullMatch_of_early_close :
    (ofSource? "1)|(?:2").any (·.isFullMatch "13" false) = true ∧
      compile? false "1)|(?:2".toList = none := by
  let start : Expression := .atom (.assertion .lineStart)
  let finish : Expression := .atom (.assertion .lineEnd)
  let ends : Expression := .alternation
    [.sequence [start, .group false [] (.atom (.literal ⟨'1', false⟩))],
      .sequence [.group false [] (.atom (.literal ⟨'2', false⟩)), finish]]
  let branches : Regex :=
    .either (.both (.place .textStart) (.group false (.chars (.single '1'))))
      (.both (.group false (.chars (.single '2'))) (.place .textEnd))
  have hends : ∀ fold, ends.regex? (.initial fold) = some (branches, .initial fold) := by
    intro fold
    have hone := regex?_digit (show '1' ∈ "0123456789".toList by decide) fold
    have htwo := regex?_digit (show '2' ∈ "0123456789".toList by decide) fold
    obtain ⟨hstart, hend⟩ := regex?_ends fold
    simp [ends, start, finish, branches, Expression.regex?, Expression.regexes?, Flags.set_nil,
      hone, htwo, hstart, hend, Regex.choice, Regex.sequence]
  have hwhole : ∀ fold, compile? fold (anchored "1)|(?:2") = some branches := fun fold =>
    compile?_eq_some_iff.2 ⟨ends, .initial fold, rfl, hends fold, by decide⟩
  rw [ofSource?_eq_some hwhole]
  exact ⟨by decide, rfl⟩

end CsvSchema.Pattern
