import CsvSchema.Text.Case
import CsvSchema.Text.Split

/-!
# Lower case inside a longer text

The lower case of a capital sigma depends on the characters around it, so a text may be lowered
otherwise inside a longer text than by itself.  What decides is the nearest character on each side
that case does not ignore.  If the text itself has one wherever it matters, it is settled, and then
its lower case is found again in the lower case of every text that it begins, ends or lies in.  If
it is not, a single letter behind it or in front of it is enough to lose it,
`settledAfter_of_isInfix` and `settledBefore_of_isInfix`.
-/

namespace CsvSchema

namespace Text

/-- Whether case takes notice of some character of a text. -/
def isNoticed (s : List Char) : Bool := s.any (!caseIgnorableSet.holds ·)

/-- The lower case of a text that stands between two others; `before` is nearest first. -/
def lowerBetween (before : List Char) : List Char → List Char → List Char
  | [], _ => []
  | c :: rest, after =>
      (if c == '\u03A3' then [lowerSigma before (rest ++ after)] else lowerChar c) ++
        lowerBetween (c :: before) rest after

/-- Whether all capital sigmas in the rest of a text have a property of what stands before them,
nearest character first, and of what stands behind them. -/
def allSigmas (p : List Char → List Char → Bool) (before : List Char) : List Char → Bool
  | [] => true
  | c :: rest => (c != '\u03A3' || p before rest) && allSigmas p (c :: before) rest

/-- Whether a capital sigma is lowered in the same way whatever is put in front of what stands
before it. -/
def isFixedBefore (before after : List Char) : Bool := startsCased after || isNoticed before

/-- Whether a capital sigma is lowered in the same way whatever is put behind what stands after
it. -/
def isFixedAfter (before after : List Char) : Bool := !startsCased before || isNoticed after

/-- Whether a text is lowered in the same way whatever stands in front of it. -/
def settledBefore (s : List Char) : Bool := allSigmas isFixedBefore [] s

/-- Whether a text is lowered in the same way whatever stands behind it. -/
def settledAfter (s : List Char) : Bool := allSigmas isFixedAfter [] s

section Contexts

theorem startsCased_cons (c : Char) (s : List Char) :
    startsCased (c :: s) =
      if caseIgnorableSet.holds c then startsCased s else casedSet.holds c := by
  unfold startsCased
  rw [List.dropWhile_cons]
  cases caseIgnorableSet.holds c with
  | true => rfl
  | false => rfl

/-- Only what case ignores can be looked through. -/
theorem startsCased_append (s rest : List Char) :
    startsCased (s ++ rest) = if isNoticed s then startsCased s else startsCased rest := by
  induction s with
  | nil => rfl
  | cons c s ih =>
      rw [List.cons_append, startsCased_cons, startsCased_cons, isNoticed, List.any_cons, ih]
      cases caseIgnorableSet.holds c with
      | true => rfl
      | false => rfl

theorem isNoticed_of_startsCased {s : List Char} (h : startsCased s = true) :
    isNoticed s = true := by
  by_cases hnoticed : isNoticed s = true
  · exact hnoticed
  · have hempty := startsCased_append s []
    rw [if_neg hnoticed, List.append_nil, h] at hempty
    cases hempty

theorem startsCased_append_of_startsCased {s : List Char} (h : startsCased s = true)
    (rest : List Char) : startsCased (s ++ rest) = true := by
  rw [startsCased_append, if_pos (isNoticed_of_startsCased h), h]

/-- A capital sigma is lowered in the same way in a longer text if each side of it that is made
longer is settled. -/
theorem lowerSigma_append {before after front back : List Char}
    (hfront : front = [] ∨ isFixedBefore before after = true)
    (hback : back = [] ∨ isFixedAfter before after = true) :
    lowerSigma (before ++ front) (after ++ back) = lowerSigma before after := by
  suffices h : (startsCased (before ++ front) && !startsCased (after ++ back)) =
      (startsCased before && !startsCased after) by
    rw [lowerSigma, h, lowerSigma]
  by_cases hbefore : startsCased before = true
  · -- The sigma is inside a word, and what follows decides whether it ends there.
    have hafter : startsCased (after ++ back) = startsCased after := by
      rcases hback with rfl | hnoticed
      · rw [List.append_nil]
      · rw [isFixedAfter, hbefore, Bool.not_true, Bool.false_or] at hnoticed
        rw [startsCased_append, if_pos hnoticed]
    rw [startsCased_append_of_startsCased hbefore, hafter, hbefore]
  · rw [Bool.not_eq_true] at hbefore
    by_cases hafter : startsCased after = true
    · rw [startsCased_append_of_startsCased hafter, hafter, Bool.not_true, Bool.and_false,
        Bool.and_false]
    · rw [Bool.not_eq_true] at hafter
      have hlonger : startsCased (before ++ front) = startsCased before := by
        rcases hfront with rfl | hnoticed
        · rw [List.append_nil]
        · rw [isFixedBefore, hafter, Bool.false_or] at hnoticed
          rw [startsCased_append, if_pos hnoticed]
      rw [hlonger, hbefore, Bool.false_and, Bool.false_and]

end Contexts

section Settled

theorem lowerAfter_append (before s after : List Char) :
    lowerAfter before (s ++ after) =
      lowerBetween before s after ++ lowerAfter (s.reverse ++ before) after := by
  induction s generalizing before with
  | nil => rfl
  | cons c s ih =>
      rw [List.cons_append, lowerAfter, ih, lowerBetween, List.reverse_cons, List.append_assoc,
        List.append_assoc, List.singleton_append]

theorem lowerBetween_eq_lowerAfter {before s front back : List Char}
    (hfront : front = [] ∨ allSigmas isFixedBefore before s = true)
    (hback : back = [] ∨ allSigmas isFixedAfter before s = true) :
    lowerBetween (before ++ front) s back = lowerAfter before s := by
  induction s generalizing before with
  | nil => rfl
  | cons c s ih =>
      simp only [allSigmas, Bool.and_eq_true, Bool.or_eq_true, bne_iff_ne, ne_eq] at hfront hback
      have hrest := @ih (c :: before) (hfront.imp_right And.right) (hback.imp_right And.right)
      rw [List.cons_append] at hrest
      rw [lowerBetween, lowerAfter, hrest]
      congr 1
      by_cases hc : c = '\u03A3'
      · have hfrontHere := hfront.imp_right fun h => h.1.resolve_left (not_not_intro hc)
        have hbackHere := hback.imp_right fun h => h.1.resolve_left (not_not_intro hc)
        rw [if_pos (beq_iff_eq.2 hc), if_pos (beq_iff_eq.2 hc), lowerSigma_append]
        · simpa using hfrontHere
        · simpa using hbackHere
      · rw [if_neg (by simpa using hc), if_neg (by simpa using hc)]

/-- A settled text is lowered inside a longer one as it is by itself. -/
theorem lower_append_append (front s back : List Char)
    (hfront : front = [] ∨ settledBefore s = true) (hback : back = [] ∨ settledAfter s = true) :
    lower (front ++ (s ++ back)) =
      lowerBetween [] front (s ++ back) ++
        (lower s ++ lowerAfter (s.reverse ++ front.reverse) back) := by
  have hsettled : lowerBetween ([] ++ front.reverse) s back = lowerAfter [] s :=
    lowerBetween_eq_lowerAfter (hfront.imp_left List.reverse_eq_nil_iff.2) hback
  rw [List.nil_append] at hsettled
  rw [lower, lowerAfter_append, List.append_nil, lowerAfter_append, hsettled, lower]

theorem isPrefix_lower {s t : List Char} (h : s <+: t) (hs : settledAfter s = true) :
    lower s <+: lower t := by
  obtain ⟨back, rfl⟩ := h
  exact ⟨_, (lower_append_append [] s back (.inl rfl) (.inr hs)).symm⟩

theorem isSuffix_lower {s t : List Char} (h : s <:+ t) (hs : settledBefore s = true) :
    lower s <:+ lower t := by
  obtain ⟨front, rfl⟩ := h
  have hlower := lower_append_append front s [] (.inr hs) (.inl rfl)
  rw [lowerAfter, List.append_nil, List.append_nil] at hlower
  exact ⟨_, hlower.symm⟩

theorem isInfix_lower {s t : List Char} (h : s <:+: t) (hbefore : settledBefore s = true)
    (hafter : settledAfter s = true) : lower s <:+: lower t := by
  obtain ⟨front, back, rfl⟩ := h
  rw [List.append_assoc, lower_append_append front s back (.inr hbefore) (.inr hafter),
    ← List.append_assoc]
  exact ⟨_, _, rfl⟩

end Settled

section Unsettled

/-- If a sigma never turns into `x` between two texts, and turns out of it where it is not settled,
then a text that is not settled has fewer of `x` between these two than by itself. -/
theorem count_lowerBetween (x : Char) (p : List Char → List Char → Bool) (front back : List Char)
    (hle : ∀ before after, [lowerSigma (before ++ front) (after ++ back)].count x ≤
      [lowerSigma before after].count x)
    (hlt : ∀ before after, p before after = false →
      [lowerSigma (before ++ front) (after ++ back)].count x < [lowerSigma before after].count x)
    (before s : List Char) :
    (lowerBetween (before ++ front) s back).count x ≤ (lowerAfter before s).count x ∧
      (allSigmas p before s = false →
        (lowerBetween (before ++ front) s back).count x < (lowerAfter before s).count x) := by
  induction s generalizing before with
  | nil => exact ⟨Nat.le_refl _, fun h => by cases h⟩
  | cons c s ih =>
      obtain ⟨hrest, hrestLt⟩ := ih (c :: before)
      rw [List.cons_append] at hrest hrestLt
      rw [lowerBetween, lowerAfter, List.count_append, List.count_append, allSigmas]
      by_cases hc : c = '\u03A3'
      · have hsigma := hle before s
        have hsigmaLt := hlt before s
        simp only [hc, beq_self_eq_true, if_true, bne_self_eq_false, Bool.false_or]
          at hrest hrestLt ⊢
        refine ⟨by omega, fun hunsettled => ?_⟩
        rcases Bool.and_eq_false_iff.1 hunsettled with hhere | hlater
        · have hfewer := hsigmaLt hhere
          omega
        · have hfewer := hrestLt hlater
          omega
      · have hother : (c == '\u03A3') = false := beq_eq_false_iff_ne.2 hc
        simp only [hother, bne, Bool.not_false, Bool.true_or, Bool.true_and, Bool.false_eq_true,
          if_false]
        refine ⟨by omega, fun hunsettled => ?_⟩
        have hfewer := hrestLt hunsettled
        omega

theorem startsCased_letter : startsCased ['\u0391'] = true := by decide +kernel

theorem lowerAfter_letter (before rest : List Char) :
    lowerAfter before ('\u0391' :: rest) = '\u03B1' :: lowerAfter ('\u0391' :: before) rest := by
  have hletter : lowerChar '\u0391' = ['\u03B1'] := by decide +kernel
  rw [lowerAfter, if_neg (by decide), hletter]
  rfl

theorem startsCased_of_not_isNoticed {s : List Char} (h : isNoticed s = false) :
    startsCased s = false := by
  rw [← Bool.not_eq_true] at h ⊢
  exact fun hstarts => h (isNoticed_of_startsCased hstarts)

/-- A letter behind a text that is not settled takes a final sigma away from it. -/
theorem count_final_lt {s : List Char} (h : settledAfter s = false) :
    (lowerBetween [] s ['\u0391']).count '\u03C2' < (lower s).count '\u03C2' := by
  refine (count_lowerBetween '\u03C2' isFixedAfter [] ['\u0391'] ?_ ?_ [] s).2 h
  · intro before after
    simp only [lowerSigma, List.append_nil, startsCased_append, startsCased_letter]
    cases startsCased before <;> cases isNoticed after <;> cases startsCased after <;> decide
  · intro before after hloose
    rw [isFixedAfter, Bool.or_eq_false_iff, Bool.not_eq_false'] at hloose
    obtain ⟨hbefore, hafter⟩ := hloose
    simp only [lowerSigma, List.append_nil, startsCased_append, startsCased_letter, hbefore, hafter,
      startsCased_of_not_isNoticed hafter]
    decide

/-- A letter in front of a text that is not settled turns a sigma of it into a final one. -/
theorem count_inner_lt {s : List Char} (h : settledBefore s = false) :
    (lowerAfter ['\u0391'] s).count '\u03C3' < (lower s).count '\u03C3' := by
  have hbetween : lowerBetween (['\u0391'] ++ []) s [] = lowerAfter ['\u0391'] s :=
    lowerBetween_eq_lowerAfter (.inl rfl) (.inl rfl)
  rw [← hbetween]
  refine (count_lowerBetween '\u03C3' isFixedBefore ['\u0391'] [] ?_ ?_ [] s).2 h
  · intro before after
    simp only [lowerSigma, List.append_nil, startsCased_append, startsCased_letter]
    cases startsCased before <;> cases isNoticed before <;> cases startsCased after <;> decide
  · intro before after hloose
    rw [isFixedBefore, Bool.or_eq_false_iff] at hloose
    obtain ⟨hafter, hbefore⟩ := hloose
    simp only [lowerSigma, List.append_nil, startsCased_append, startsCased_letter, hbefore, hafter,
      startsCased_of_not_isNoticed hbefore]
    decide

/-- If the lower case of a text is still there with a letter behind the text, the text is
settled. -/
theorem settledAfter_of_isInfix {s : List Char} (h : lower s <:+: lower (s ++ ['\u0391'])) :
    settledAfter s = true := by
  rw [← Bool.not_eq_false]
  intro hloose
  have hcount := h.sublist.count_le '\u03C2'
  have hfewer := count_final_lt hloose
  have hletter : (lowerAfter (s.reverse ++ []) ['\u0391']).count '\u03C2' = 0 := by
    rw [lowerAfter_letter, lowerAfter]
    decide
  rw [lower, lower, lowerAfter_append, List.count_append, hletter] at hcount
  rw [lower] at hfewer
  omega

/-- If the lower case of a text is still there with a letter before the text, the text is
settled. -/
theorem settledBefore_of_isInfix {s : List Char} (h : lower s <:+: lower ('\u0391' :: s)) :
    settledBefore s = true := by
  rw [← Bool.not_eq_false]
  intro hloose
  have hcount := h.sublist.count_le '\u03C3'
  have hfewer := count_inner_lt hloose
  have hsigma : ('\u03B1' == '\u03C3') = false := by decide
  rw [lower, lower, lowerAfter_letter, List.count_cons, hsigma] at hcount
  rw [lower] at hfewer
  simp only [Bool.false_eq_true, if_false] at hcount
  omega

end Unsettled

end Text

end CsvSchema
