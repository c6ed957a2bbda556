import Mathlib.Tactic.Ring
import CsvSchema.Decimal.Shortest
import CsvSchema.Text.Split
import CsvSchema.Proofs.Decimal.Digits

/-!
# Numbers and their shortest texts

The reals that round to different floating point numbers are different, and the digits that are
written for a number round to it.  So different numbers have different texts,
`Binary64.text_injective`.
-/

namespace CsvSchema.Decimal

open Binary64 (spacingExponent unitsInOne infinityUnits)

/-- A number of units that keeps no more than 53 bits. -/
def IsAligned (units : Nat) : Prop := 2 ^ spacingExponent units ∣ units

/-- A finite number that a floating point number of 64 bits can be. -/
structure Binary64.IsRepresentable (x : Binary64) : Prop where
  aligned : IsAligned x.units
  finite : x.units < infinityUnits

theorem spacingExponent_eq (units : Nat) : spacingExponent units = units.log2 - 52 := by
  unfold spacingExponent
  split
  · rename_i hsmall
    by_cases hzero : units = 0
    · subst hzero
      rfl
    · have hlog := (Nat.log2_lt hzero).2 hsmall
      omega
  · rfl

section Neighbours

/-- The significand of a number.  It has 53 bits unless the number is one of the smallest. -/
structure HasSignificand (units significand : Nat) : Prop where
  eq : units = significand * 2 ^ spacingExponent units
  lt : significand < 2 ^ 53
  large : 0 < spacingExponent units →
    2 ^ 52 ≤ significand ∧ units.log2 = 52 + spacingExponent units

theorem IsAligned.exists_significand {units : Nat} (h : IsAligned units) :
    ∃ significand, HasSignificand units significand := by
  obtain ⟨significand, heq⟩ := h
  rw [Nat.mul_comm] at heq
  have hpos : 0 < 2 ^ spacingExponent units := Nat.two_pow_pos _
  -- The spacing leaves at most 53 bits of the number, and exactly 53 where it is more than one.
  refine ⟨significand, heq, ?_, fun hexponent => ?_⟩
  · have hupper : units < 2 ^ (spacingExponent units + 53) := by
      refine Nat.lt_of_lt_of_le Nat.lt_log2_self (Nat.pow_le_pow_right (by decide) ?_)
      rw [spacingExponent_eq]
      omega
    rw [Nat.pow_add, Nat.mul_comm] at hupper
    refine Nat.lt_of_mul_lt_mul_right (a := 2 ^ spacingExponent units) ?_
    rw [← heq]
    exact hupper
  · have hlog : units.log2 = 52 + spacingExponent units := by
      rw [spacingExponent_eq] at hexponent ⊢
      omega
    have hzero : units ≠ 0 := by
      rintro rfl
      rw [spacingExponent_eq] at hexponent
      simp at hexponent
    have hlower := Nat.log2_self_le hzero
    rw [hlog, Nat.pow_add] at hlower
    refine ⟨Nat.le_of_mul_le_mul_right ?_ hpos, hlog⟩
    rw [← heq]
    exact hlower

theorem spacingExponent_mono {units₁ units₂ : Nat} (h : units₁ < units₂) :
    spacingExponent units₁ ≤ spacingExponent units₂ := by
  have hlog : units₁.log2 ≤ units₂.log2 := by
    by_cases hzero : units₁ = 0
    · subst hzero
      exact Nat.zero_le _
    · rw [Nat.le_log2 (by omega)]
      exact Nat.le_trans (Nat.log2_self_le hzero) (Nat.le_of_lt h)
  rw [spacingExponent_eq, spacingExponent_eq]
  omega

namespace RoundingInterval

theorem closed_around {units significand : Nat} (h : HasSignificand units significand) :
    (around units).closed = (significand % 2 == 0) := by
  have hquotient : units / Nat.pow 2 (spacingExponent units) = significand := by
    conv => lhs; lhs; rw [h.eq]
    exact Nat.mul_div_cancel _ (Nat.two_pow_pos _)
  simp only [around, hquotient]

/-- Below a number the interval goes down by half of a spacing, or by a quarter of it if the number
is a power of two whose lower neighbours are closer. -/
theorem low_around {units significand : Nat} (h : HasSignificand units significand) :
    (around units).low = 4 * units - 2 * 2 ^ spacingExponent units ∧
        (0 < spacingExponent units → significand ≠ 2 ^ 52) ∨
      (around units).low = 4 * units - 2 ^ spacingExponent units ∧ significand = 2 ^ 52 := by
  have hpower : 0 < spacingExponent units → (significand = 2 ^ 52 ↔ units = 2 ^ units.log2) := by
    intro hexponent
    rw [(h.large hexponent).2, Nat.pow_add]
    conv => rhs; lhs; rw [h.eq]
    exact (Nat.mul_left_inj (Nat.ne_of_gt (Nat.two_pow_pos _))).symm
  simp only [around]
  split
  · rename_i hedge
    rw [Bool.and_eq_true, decide_eq_true_eq, beq_iff_eq] at hedge
    exact .inr ⟨rfl, (hpower hedge.1).2 hedge.2⟩
  · rename_i hplain
    rw [Bool.and_eq_true, decide_eq_true_eq, beq_iff_eq] at hplain
    exact .inl ⟨rfl, fun hexponent heq => hplain ⟨hexponent, (hpower hexponent).1 heq⟩⟩

/-- Two numbers that are multiples of the same spacing. -/
theorem high_le_low_of_same {spacing units₁ units₂ low m n : Nat} (hpos : 0 < spacing)
    (h₁ : units₁ = m * spacing) (h₂ : units₂ = n * spacing) (h : units₁ < units₂)
    (hlow : low = 4 * units₂ - 2 * spacing ∨ low = 4 * units₂ - spacing) :
    4 * units₁ + 2 * spacing < low ∨
      4 * units₁ + 2 * spacing = low ∧ (m % 2 == 0 && n % 2 == 0) = false := by
  have hmn : m < n := by
    rw [h₁, h₂] at h
    exact Nat.lt_of_mul_lt_mul_right h
  obtain ⟨k, rfl⟩ := Nat.exists_eq_add_of_lt hmn
  rw [Nat.add_mul, Nat.add_mul, ← h₁, Nat.one_mul] at h₂
  cases k with
  | zero =>
      -- The numbers are neighbours, so one of the significands is odd.
      have hodd : (m % 2 == 0 && (m + 0 + 1) % 2 == 0) = false := by
        rcases Nat.mod_two_eq_zero_or_one m with hm | hm
        · have hnext : (m + 0 + 1) % 2 = 1 := by omega
          rw [hnext]
          simp
        · rw [hm]
          rfl
      rcases hlow with rfl | rfl
      · exact .inr ⟨by omega, hodd⟩
      · exact .inl (by omega)
  | succ k =>
      have hgap : spacing ≤ (k + 1) * spacing := Nat.le_mul_of_pos_left spacing (Nat.succ_pos k)
      omega

/-- Two numbers of which the larger one has a wider spacing. -/
theorem high_le_low_of_wider {spacing₁ spacing₂ units₁ units₂ low m n : Nat} (hpos : 0 < spacing₁)
    (hwider : spacing₂ = 2 * spacing₁ ∨ 4 * spacing₁ ≤ spacing₂) (h₁ : units₁ = m * spacing₁)
    (h₂ : units₂ = n * spacing₂) (hm : m < 2 ^ 53) (hn : 2 ^ 52 ≤ n)
    (hlow : low = 4 * units₂ - 2 * spacing₂ ∧ n ≠ 2 ^ 52 ∨
      low = 4 * units₂ - spacing₂ ∧ n = 2 ^ 52) :
    4 * units₁ + 2 * spacing₁ < low ∨
      4 * units₁ + 2 * spacing₁ = low ∧ (m % 2 == 0 && n % 2 == 0) = false := by
  have hunits₁ : units₁ + spacing₁ ≤ 2 ^ 53 * spacing₁ := by
    rw [h₁, ← Nat.succ_mul]
    exact Nat.mul_le_mul_right spacing₁ hm
  rcases hlow with ⟨rfl, hn'⟩ | ⟨rfl, rfl⟩
  · -- The larger number is above the power of two that it shares its spacing with.
    have hunits₂ : 2 ^ 52 * spacing₂ + spacing₂ ≤ units₂ := by
      rw [h₂, ← Nat.succ_mul]
      exact Nat.mul_le_mul_right spacing₂ (by omega)
    omega
  · rcases hwider with rfl | hwider
    · by_cases hlast : m = 2 ^ 53 - 1
      · -- The numbers are neighbours, and the significand of the smaller one is odd.
        subst hlast
        right
        exact ⟨by omega, by decide⟩
      · have hunits₁' : units₁ + 2 * spacing₁ ≤ 2 ^ 53 * spacing₁ := by
          rw [h₁, ← Nat.add_mul]
          exact Nat.mul_le_mul_right spacing₁ (by omega)
        omega
    · omega

/-- The intervals of two numbers have at most one end in common, which is then not in both. -/
theorem high_le_low {units₁ units₂ : Nat} (h₁ : IsAligned units₁) (h₂ : IsAligned units₂)
    (h : units₁ < units₂) :
    (around units₁).high < (around units₂).low ∨
      (around units₁).high = (around units₂).low ∧
        ((around units₁).closed && (around units₂).closed) = false := by
  obtain ⟨m, hm⟩ := h₁.exists_significand
  obtain ⟨n, hn⟩ := h₂.exists_significand
  have hhigh : (around units₁).high = 4 * units₁ + 2 * 2 ^ spacingExponent units₁ := rfl
  have hpos : 0 < 2 ^ spacingExponent units₁ := Nat.two_pow_pos _
  have hlow := low_around hn
  rw [hhigh, closed_around hm, closed_around hn]
  rcases Nat.eq_or_lt_of_le (spacingExponent_mono h) with hsame | hless
  · have hunits₂ := hn.eq
    rw [← hsame] at hlow hunits₂
    exact high_le_low_of_same hpos hm.eq hunits₂ h (hlow.imp And.left And.left)
  · have hexponent : 0 < spacingExponent units₂ := by omega
    have hwider : 2 ^ spacingExponent units₂ = 2 * 2 ^ spacingExponent units₁ ∨
        4 * 2 ^ spacingExponent units₁ ≤ 2 ^ spacingExponent units₂ := by
      rcases Nat.eq_or_lt_of_le (Nat.succ_le_of_lt hless) with hnext | hfar
      · rw [← hnext, Nat.pow_succ, Nat.mul_comm]
        exact .inl rfl
      · have hpower := Nat.pow_le_pow_right (n := 2) (by decide) (Nat.succ_le_of_lt hfar)
        rw [Nat.pow_succ, Nat.pow_succ] at hpower
        exact .inr (by omega)
    exact high_le_low_of_wider hpos hwider hm.eq hn.eq hm.lt (hn.large hexponent).1
      (hlow.imp_left fun hplain => ⟨hplain.1, hplain.2 hexponent⟩)

/-- A fraction that lies in an interval, at an end only if the interval is closed. -/
structure Contains (interval : RoundingInterval) (x : Ratio) : Prop where
  low_le : interval.low * x.denominator ≤ x.numerator
  le_high : x.numerator ≤ interval.high * x.denominator
  inside : interval.closed = false →
    interval.low * x.denominator < x.numerator ∧ x.numerator < interval.high * x.denominator

/-- A decimal in quarter units. -/
def quarters (digits : Nat) (exponent : Int) : Ratio :=
  if 0 ≤ exponent then ⟨digits * Nat.pow 10 exponent.toNat * 4 * Nat.pow 2 unitsInOne, 1⟩
  else ⟨digits * 4 * Nat.pow 2 unitsInOne, Nat.pow 10 (-exponent).toNat⟩

theorem quarters_denominator_pos (digits : Nat) (exponent : Int) :
    0 < (quarters digits exponent).denominator := by
  unfold quarters
  split
  · exact Nat.one_pos
  · exact Nat.pow_pos (by decide)

theorem holds_iff (interval : RoundingInterval) (digits : Nat) (exponent : Int) :
    interval.holds digits exponent = true ↔ interval.Contains (quarters digits exponent) := by
  change (if interval.closed then _ else _) = true ↔ _
  cases hclosed : interval.closed with
  | true =>
      simp only [if_true, Bool.and_eq_true, decide_eq_true_eq]
      constructor
      · rintro ⟨hlow, hhigh⟩
        exact ⟨hlow, hhigh, fun hopen => by rw [hclosed] at hopen; cases hopen⟩
      · exact fun h => ⟨h.low_le, h.le_high⟩
  | false =>
      simp only [Bool.false_eq_true, if_false, Bool.and_eq_true, decide_eq_true_eq]
      constructor
      · rintro ⟨hlow, hhigh⟩
        exact ⟨Nat.le_of_lt hlow, Nat.le_of_lt hhigh, fun _ => ⟨hlow, hhigh⟩⟩
      · exact fun h => h.inside hclosed

/-- No fraction rounds to two numbers, the first of which is smaller. -/
theorem not_contains_of_lt {units₁ units₂ : Nat} (h₁ : IsAligned units₁) (h₂ : IsAligned units₂)
    (h : units₁ < units₂) {x : Ratio} (hx : 0 < x.denominator) (hx₁ : (around units₁).Contains x) :
    ¬(around units₂).Contains x := by
  intro hx₂
  have hbetween : (around units₂).low * x.denominator ≤ (around units₁).high * x.denominator :=
    Nat.le_trans hx₂.low_le hx₁.le_high
  rcases high_le_low h₁ h₂ h with hless | ⟨hsame, hopen⟩
  · exact absurd (Nat.le_of_mul_le_mul_right hbetween hx) (Nat.not_le.2 hless)
  · -- The fraction is the common end, which is missing in one of the intervals.
    have hlow := hx₂.low_le
    have hhigh := hx₁.le_high
    rw [hsame] at hhigh
    rcases Bool.and_eq_false_iff.1 hopen with hopen₁ | hopen₂
    · have hstrict := (hx₁.inside hopen₁).2
      rw [hsame] at hstrict
      omega
    · have hstrict := (hx₂.inside hopen₂).1
      omega

/-- A fraction rounds to one number only. -/
theorem eq_of_contains {units₁ units₂ : Nat} (h₁ : IsAligned units₁) (h₂ : IsAligned units₂)
    {x : Ratio} (hx : 0 < x.denominator) (hx₁ : (around units₁).Contains x)
    (hx₂ : (around units₂).Contains x) : units₁ = units₂ := by
  rcases Nat.lt_trichotomy units₁ units₂ with h | h | h
  · exact absurd hx₂ (not_contains_of_lt h₁ h₂ h hx hx₁)
  · exact h
  · exact absurd hx₁ (not_contains_of_lt h₂ h₁ h hx hx₂)

end RoundingInterval

end Neighbours

section Search

theorem holds_of_neighbour? {units digits : Nat} {exponent : Int}
    (h : neighbour? units exponent = some digits) :
    (RoundingInterval.around units).holds digits exponent = true := by
  simp only [neighbour?] at h
  split at h
  · rename_i hlower hupper
    cases h
    split
    · exact hlower
    · exact hupper
  · rename_i hlower _
    cases h
    exact hlower
  · rename_i _ hupper
    cases h
    exact hupper
  · cases h

/-- The distance between neighbours on a decimal grid, in units. -/
def gridStep (exponent : Int) : Ratio :=
  if 0 ≤ exponent then ⟨Nat.pow 2 unitsInOne * Nat.pow 10 exponent.toNat, 1⟩
  else ⟨Nat.pow 2 unitsInOne, Nat.pow 10 (-exponent).toNat⟩

theorem gridStep_pos (exponent : Int) :
    0 < (gridStep exponent).numerator ∧ 0 < (gridStep exponent).denominator := by
  unfold gridStep
  generalize unitsInOne = places
  have htwo : 0 < Nat.pow 2 places := Nat.pow_pos (by decide)
  split
  · exact ⟨Nat.mul_pos htwo (Nat.pow_pos (by decide)), Nat.one_pos⟩
  · exact ⟨htwo, Nat.pow_pos (by decide)⟩

theorem scaledBy_eq (units : Nat) (exponent : Int) :
    scaledBy units exponent =
      ⟨units * (gridStep exponent).denominator, (gridStep exponent).numerator⟩ := by
  unfold scaledBy gridStep
  generalize Nat.pow 2 unitsInOne = one
  split
  · rw [Nat.mul_one]
  · rfl

theorem quarters_eq (digits : Nat) (exponent : Int) :
    RoundingInterval.quarters digits exponent =
      ⟨4 * (digits * (gridStep exponent).numerator), (gridStep exponent).denominator⟩ := by
  unfold RoundingInterval.quarters gridStep
  generalize Nat.pow 2 unitsInOne = one
  split
  · generalize Nat.pow 10 exponent.toNat = scale
    congr 1
    ring
  · congr 1
    ring

/-- A grid is fine around a number if its step is at most half of the spacing there. -/
def IsFine (units : Nat) (exponent : Int) : Prop :=
  2 * (gridStep exponent).numerator ≤
    2 ^ spacingExponent units * (gridStep exponent).denominator

/-- On a fine grid the upper neighbour of a number rounds to it. -/
theorem holds_of_isFine {units upper : Nat} {exponent : Int} (hpos : 0 < units)
    (hfine : IsFine units exponent)
    (hlow : units * (gridStep exponent).denominator ≤ upper * (gridStep exponent).numerator)
    (hhigh : upper * (gridStep exponent).numerator <
      units * (gridStep exponent).denominator + (gridStep exponent).numerator) :
    (RoundingInterval.around units).holds upper exponent = true := by
  obtain ⟨-, hdenominator⟩ := gridStep_pos exponent
  unfold IsFine at hfine
  rw [RoundingInterval.holds_iff, quarters_eq]
  generalize (gridStep exponent).numerator = step at hfine hlow hhigh ⊢
  generalize (gridStep exponent).denominator = scale at hfine hlow hhigh hdenominator ⊢
  -- The neighbour is not below the number, and less than half a spacing above it.
  have hbelow : (RoundingInterval.around units).low < 4 * units := by
    have hspacing : 0 < Nat.pow 2 (spacingExponent units) := Nat.two_pow_pos _
    simp only [RoundingInterval.around]
    split <;> omega
  have hstart : (RoundingInterval.around units).low * scale < 4 * (upper * step) :=
    calc (RoundingInterval.around units).low * scale
        < 4 * units * scale := Nat.mul_lt_mul_of_pos_right hbelow hdenominator
      _ = 4 * (units * scale) := Nat.mul_assoc 4 units scale
      _ ≤ 4 * (upper * step) := Nat.mul_le_mul_left 4 hlow
  have hend : 4 * (upper * step) < (RoundingInterval.around units).high * scale := by
    have hhigh' : (RoundingInterval.around units).high * scale =
        4 * (units * scale) + 2 * (2 ^ spacingExponent units * scale) := by
      change (4 * units + 2 * 2 ^ spacingExponent units) * scale = _
      ring
    omega
  exact ⟨Nat.le_of_lt hstart, Nat.le_of_lt hend, fun _ => ⟨hstart, hend⟩⟩

theorem isSome_neighbour?_of_isFine {units : Nat} {exponent : Int} (hpos : 0 < units)
    (hfine : IsFine units exponent) : (neighbour? units exponent).isSome := by
  obtain ⟨hstep, -⟩ := gridStep_pos exponent
  have hdivision := Nat.div_add_mod (units * (gridStep exponent).denominator)
    (gridStep exponent).numerator
  have hrest := Nat.mod_lt (units * (gridStep exponent).denominator) hstep
  simp only [neighbour?, scaledBy_eq]
  generalize hlower : units * (gridStep exponent).denominator / (gridStep exponent).numerator =
    lower at hdivision ⊢
  generalize units * (gridStep exponent).denominator % (gridStep exponent).numerator = rest
    at hdivision hrest ⊢
  -- The upper neighbour is the quotient, or one more if there is a rest.
  have hholds : (RoundingInterval.around units).holds (if rest = 0 then lower else lower + 1)
      exponent = true := by
    rw [Nat.mul_comm] at hdivision
    split
    · exact holds_of_isFine hpos hfine (by omega) (by omega)
    · refine holds_of_isFine hpos hfine ?_ ?_
      · rw [Nat.succ_mul]
        omega
      · rw [Nat.succ_mul]
        omega
  rw [hholds]
  cases (RoundingInterval.around units).holds lower exponent with
  | true => rfl
  | false => rfl

/-- The search ends on a grid if one of those that it tries is fine. -/
theorem holds_shortestFrom {units : Nat} (hpos : 0 < units) {count : Nat} {exponent : Int}
    (hfine : IsFine units (exponent - count)) :
    (RoundingInterval.around units).holds (shortestFrom units exponent (count + 1)).1
      (shortestFrom units exponent (count + 1)).2 = true := by
  induction count generalizing exponent with
  | zero =>
      have hsome := isSome_neighbour?_of_isFine hpos hfine
      rw [Int.ofNat_zero, Int.sub_zero] at hsome
      obtain ⟨digits, hdigits⟩ := Option.isSome_iff_exists.1 hsome
      simp only [shortestFrom, hdigits]
      exact holds_of_neighbour? hdigits
  | succ count ih =>
      rw [shortestFrom]
      cases hdigits : neighbour? units exponent with
      | some digits => exact holds_of_neighbour? hdigits
      | none =>
          refine ih ?_
          have hsame : exponent - 1 - (count : Int) = exponent - ((count + 1 : Nat) : Int) := by
            omega
          rw [hsame]
          exact hfine

/-- The twentieth grid is fine, whatever the binary logarithm of the units is. -/
def isFineLast (log : Nat) : Bool :=
  let step := gridStep (((log : Int) - unitsInOne) * 30103 / 100000 + 1 - 19)
  2 * step.numerator ≤ 2 ^ (log - 52) * step.denominator

set_option maxRecDepth 100000 in
theorem isFineLast_of_lt : ∀ log < 1024 + unitsInOne, isFineLast log = true := by
  decide +kernel

/-- The digits that are written for a number round to it. -/
theorem holds_shortestDigits {units : Nat} (hpos : 0 < units) (hfinite : units < infinityUnits) :
    (RoundingInterval.around units).holds (shortestDigits units).1 (shortestDigits units).2 =
      true := by
  have hlog : units.log2 < 1024 + unitsInOne := by
    unfold infinityUnits at hfinite
    generalize 1024 + unitsInOne = size at hfinite ⊢
    exact (Nat.log2_lt (Nat.ne_of_gt hpos)).2 hfinite
  have hlast := isFineLast_of_lt units.log2 hlog
  simp only [isFineLast, decide_eq_true_eq] at hlast
  refine holds_shortestFrom hpos ?_
  rw [IsFine, spacingExponent_eq]
  exact hlast

end Search

section Layout

/-- The digits of a decimal below a power of ten are its whole part and its places. -/
theorem exists_positional_eq (value : Nat) {exponent : Int} (h : exponent < 0) :
    ∃ whole fraction : List Char, positional value exponent = whole ++ '.' :: fraction ∧
      (fraction.length : Int) = -exponent ∧ digitsValue (whole ++ fraction) = value ∧
      ∀ c ∈ whole ++ fraction, isDigit c = true := by
  have hnegative : ¬0 ≤ exponent := by omega
  simp only [positional, if_neg hnegative]
  generalize hplaces : (-exponent).toNat = places
  generalize hpadded : List.replicate (places + 1 - (digits value).length) '0' ++ digits value =
    padded
  -- Zeros are put in front until there is a digit for the whole part.
  have hlength : places + 1 ≤ padded.length := by
    rw [← hpadded, List.length_append, List.length_replicate]
    omega
  refine ⟨padded.take (padded.length - places), padded.drop (padded.length - places), rfl, ?_, ?_,
    ?_⟩
  · rw [List.length_drop]
    omega
  · rw [List.take_append_drop, ← hpadded, digitsValue_replicate_append, digitsValue_digits]
  · intro c hc
    rw [List.take_append_drop, ← hpadded] at hc
    rcases List.mem_append.1 hc with hc | hc
    · rw [(List.mem_replicate.1 hc).2]
      decide
    · exact isDigit_of_mem_digits c hc

theorem digitsValue_append_replicate (s : List Char) (count : Nat) :
    digitsValue (s ++ List.replicate count '0') = digitsValue s * 10 ^ count := by
  induction count with
  | zero => simp
  | succ count ih =>
      rw [List.replicate_succ', ← List.append_assoc, digitsValue_append_singleton, ih, Nat.pow_succ,
        Nat.mul_assoc]
      rfl

theorem positional_of_nonneg {value : Nat} {exponent : Int} (h : 0 ≤ exponent) :
    positional value exponent = digits value ++ List.replicate exponent.toNat '0' := if_pos h

theorem isDigit_of_mem_positional {value : Nat} {exponent : Int} (h : 0 ≤ exponent) :
    ∀ c ∈ positional value exponent, isDigit c = true := by
  intro c hc
  rw [positional_of_nonneg h] at hc
  rcases List.mem_append.1 hc with hc | hc
  · exact isDigit_of_mem_digits c hc
  · rw [(List.mem_replicate.1 hc).2]
    decide

/-- Nothing but digits and a point is written. -/
theorem of_mem_positional {value : Nat} {exponent : Int} :
    ∀ c ∈ positional value exponent, isDigit c = true ∨ c = '.' := by
  intro c hc
  by_cases h : 0 ≤ exponent
  · exact .inl (isDigit_of_mem_positional h c hc)
  · obtain ⟨whole, fraction, htext, -, -, hdigits⟩ := exists_positional_eq value (Int.not_le.1 h)
    rw [htext, List.mem_append, List.mem_cons] at hc
    rcases hc with hc | rfl | hc
    · exact .inl (hdigits c (List.mem_append_left _ hc))
    · exact .inr rfl
    · exact .inl (hdigits c (List.mem_append_right _ hc))

theorem positional_ne_nil (value : Nat) (exponent : Int) : positional value exponent ≠ [] := by
  by_cases h : 0 ≤ exponent
  · rw [positional_of_nonneg h]
    exact List.append_ne_nil_of_left_ne_nil (digits_ne_nil value) _
  · obtain ⟨whole, fraction, htext, -⟩ := exists_positional_eq value (Int.not_le.1 h)
    rw [htext]
    exact List.append_ne_nil_of_right_ne_nil _ (List.cons_ne_nil _ _)

/-- A decimal with a point differs from one without. -/
theorem positional_ne {value value' : Nat} {exponent exponent' : Int} (h : 0 ≤ exponent)
    (h' : exponent' < 0) : positional value exponent ≠ positional value' exponent' := by
  intro heq
  obtain ⟨whole, fraction, htext, -⟩ := exists_positional_eq value' h'
  have hdigit := isDigit_of_mem_positional h '.' (by rw [heq, htext]; simp)
  simp [isDigit] at hdigit

/-- A text without an exponent tells which decimal it writes. -/
theorem quarters_eq_of_positional_eq {value₁ value₂ : Nat} {exponent₁ exponent₂ : Int}
    (h : positional value₁ exponent₁ = positional value₂ exponent₂) :
    RoundingInterval.quarters value₁ exponent₁ = RoundingInterval.quarters value₂ exponent₂ := by
  by_cases h₁ : 0 ≤ exponent₁
  · by_cases h₂ : 0 ≤ exponent₂
    · have hvalue := congrArg digitsValue h
      rw [positional_of_nonneg h₁, positional_of_nonneg h₂, digitsValue_append_replicate,
        digitsValue_append_replicate, digitsValue_digits, digitsValue_digits] at hvalue
      have hscaled : value₁ * Nat.pow 10 exponent₁.toNat = value₂ * Nat.pow 10 exponent₂.toNat :=
        hvalue
      rw [RoundingInterval.quarters, RoundingInterval.quarters, if_pos h₁, if_pos h₂, hscaled]
    · exact absurd h (positional_ne h₁ (Int.not_le.1 h₂))
  · by_cases h₂ : 0 ≤ exponent₂
    · exact absurd h.symm (positional_ne h₂ (Int.not_le.1 h₁))
    · obtain ⟨whole₁, fraction₁, htext₁, hplaces₁, hvalue₁, hdigits₁⟩ :=
        exists_positional_eq value₁ (Int.not_le.1 h₁)
      obtain ⟨whole₂, fraction₂, htext₂, hplaces₂, hvalue₂, hdigits₂⟩ :=
        exists_positional_eq value₂ (Int.not_le.1 h₂)
      rw [htext₁, htext₂] at h
      -- The point comes right behind the digits of the whole part.
      obtain ⟨rfl, hfractions⟩ := Text.eq_of_span h
        (fun c hc => hdigits₁ c (List.mem_append_left _ hc))
        (fun c hc => hdigits₂ c (List.mem_append_left _ hc)) ⟨'.', _, rfl, by decide⟩
        ⟨'.', _, rfl, by decide⟩
      obtain rfl := (List.cons.inj hfractions).2
      have hexponents : exponent₁ = exponent₂ := by omega
      rw [← hvalue₁, ← hvalue₂, hexponents]

end Layout

namespace Binary64

/-- The decimal that is written for a number of units. -/
def written (units : Nat) : Nat × Int := if units = 0 then (0, 0) else shortestDigits units

theorem holds_written {units : Nat} (hfinite : units < infinityUnits) :
    (RoundingInterval.around units).holds (written units).1 (written units).2 = true := by
  unfold written
  split
  · rename_i hzero
    subst hzero
    decide +kernel
  · rename_i hzero
    exact holds_shortestDigits (Nat.pos_of_ne_zero hzero) hfinite

/-- The text of a number is a sign and a decimal that rounds to the number. -/
theorem toList_text (x : Binary64) :
    x.text.toList =
      (if x.negative then ['-'] else []) ++ positional (written x.units).1 (written x.units).2 := by
  have hbody : (if x.units = 0 then ['0']
      else positional (shortestDigits x.units).1 (shortestDigits x.units).2) =
        positional (written x.units).1 (written x.units).2 := by
    unfold written
    split
    · decide +kernel
    · rfl
  rw [← hbody, text, String.toList_ofList]
  cases x.negative <;> rfl

theorem of_mem_text {x : Binary64} : ∀ c ∈ x.text.toList, isDigit c = true ∨ c = '.' ∨ c = '-' := by
  intro c hc
  rw [toList_text, List.mem_append] at hc
  rcases hc with hc | hc
  · cases hsign : x.negative <;> rw [hsign] at hc
    · cases hc
    · exact .inr (.inr (List.mem_singleton.1 hc))
  · exact (of_mem_positional c hc).imp_right .inl

theorem text_ne_nil (x : Binary64) : x.text.toList ≠ [] := by
  rw [toList_text]
  exact List.append_ne_nil_of_right_ne_nil _ (positional_ne_nil _ _)

/-- Different numbers have different texts. -/
theorem text_injective {x y : Binary64} (hx : x.IsRepresentable) (hy : y.IsRepresentable)
    (h : x.text = y.text) : x = y := by
  have hchars := congrArg String.toList h
  rw [toList_text, toList_text] at hchars
  -- No digits begin with a hyphen, so the sign is read first, and then the digits.
  have hsign : ∀ {value : Nat} {exponent : Int} {tail : List Char},
      positional value exponent ≠ '-' :: tail := by
    intro value exponent tail heq
    have hfirst := of_mem_positional '-' (by rw [heq]; exact List.mem_cons_self)
    simp [isDigit] at hfirst
  have hsame : x.negative = y.negative ∧ positional (written x.units).1 (written x.units).2 =
      positional (written y.units).1 (written y.units).2 := by
    cases hnx : x.negative <;> cases hny : y.negative <;> rw [hnx, hny] at hchars
    · exact ⟨rfl, hchars⟩
    · exact absurd hchars hsign
    · exact absurd hchars.symm hsign
    · exact ⟨rfl, (List.cons.inj hchars).2⟩
  have hx' := (RoundingInterval.holds_iff _ _ _).1 (holds_written hx.finite)
  have hy' := (RoundingInterval.holds_iff _ _ _).1 (holds_written hy.finite)
  rw [← quarters_eq_of_positional_eq hsame.2] at hy'
  have hunits := RoundingInterval.eq_of_contains hx.aligned hy.aligned
    (RoundingInterval.quarters_denominator_pos _ _) hx' hy'
  obtain ⟨negative₁, units₁⟩ := x
  obtain ⟨negative₂, units₂⟩ := y
  exact congrArg₂ Binary64.mk hsame.1 hunits

end Binary64

end CsvSchema.Decimal
