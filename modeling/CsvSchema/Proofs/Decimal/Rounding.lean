import Mathlib.Data.List.TakeWhile
import CsvSchema.Decimal.Binary64
import CsvSchema.Proofs.Decimal.Shortest

/-!
# Numbers that are read

Rounding keeps no more than 53 bits, so a number that is read from a text has no more of them than a
floating point number of 64 bits, `isAligned_of_readBinary64?`.  The digits of a number that fits
into a word are always read, because no word comes near the largest floating point number,
`isSome_readBinary64?_digits`.
-/

namespace CsvSchema.Decimal

namespace Binary64

/-- No more than 53 bits, also where rounding has carried into the next power of two. -/
theorem isAligned_mul {significand : Nat} (h : significand ≤ 2 ^ 53) (exponent : Nat) :
    IsAligned (significand * 2 ^ exponent) := by
  -- Below 2 ^ 53 the spacing divides the power of two; at 2 ^ 53 the product is a power itself.
  have hspacing : spacingExponent (significand * 2 ^ exponent) ≤ exponent ∨
      significand = 2 ^ 53 := by
    rcases Nat.lt_or_eq_of_le h with hlt | heq
    · refine .inl ?_
      by_cases hzero : significand * 2 ^ exponent = 0
      · rw [hzero, spacingExponent_eq]
        exact Nat.zero_le _
      · have hbound : significand * 2 ^ exponent < 2 ^ (53 + exponent) := by
          rw [Nat.pow_add]
          exact Nat.mul_lt_mul_of_pos_right hlt (Nat.two_pow_pos exponent)
        have hlog := (Nat.log2_lt hzero).2 hbound
        rw [spacingExponent_eq]
        omega
    · exact .inr heq
  rcases hspacing with hspacing | rfl
  · exact Dvd.dvd.mul_left (Nat.pow_dvd_pow 2 hspacing) significand
  · have hpower : 2 ^ 53 * 2 ^ exponent = 2 ^ (53 + exponent) := (Nat.pow_add 2 53 exponent).symm
    rw [IsAligned, spacingExponent_eq, hpower, Nat.log2_two_pow]
    exact Nat.pow_dvd_pow 2 (by omega)

theorem divideToEven_le (numerator denominator : Nat) :
    divideToEven numerator denominator ≤ numerator / denominator + 1 := by
  unfold divideToEven
  simp only
  split
  · exact Nat.le_succ _
  · split
    · exact Nat.le_refl _
    · split
      · exact Nat.le_succ _
      · exact Nat.le_refl _

theorem isAligned_nearestUnits (numerator denominator : Nat) :
    IsAligned (nearestUnits numerator denominator) := by
  unfold nearestUnits
  refine isAligned_mul (Nat.le_trans (divideToEven_le _ _) ?_) _
  -- Before rounding the quotient has at most 53 bits.
  rw [Nat.pow_eq, ← Nat.div_div_eq_div_mul]
  generalize numerator / denominator = units
  have hlog : units < 2 ^ (53 + spacingExponent units) := by
    refine Nat.lt_of_lt_of_le Nat.lt_log2_self (Nat.pow_le_pow_right (by decide) ?_)
    rw [spacingExponent_eq]
    omega
  rw [Nat.pow_add] at hlog
  exact Nat.div_lt_of_lt_mul (by rwa [Nat.mul_comm])

theorem isAligned_of_nearestDecimal? {significand units : Nat} {exponent : Int}
    (h : nearestDecimal? significand exponent = some units) : IsAligned units := by
  unfold nearestDecimal? at h
  simp only at h
  split at h
  · rw [← Option.some.inj h]
    exact Nat.dvd_zero _
  · rw [Option.ite_none_left_eq_some, Option.ite_none_right_eq_some] at h
    obtain ⟨-, -, heq⟩ := h
    rw [← Option.some.inj heq]
    split
    · exact isAligned_nearestUnits _ _
    · exact isAligned_nearestUnits _ _

end Binary64

/-- A number that is read keeps no more bits than a floating point number can. -/
theorem isAligned_of_readBinary64? {text : List Char} {x : Binary64}
    (h : readBinary64? text = some x) : IsAligned x.units := by
  simp only [readBinary64?, Option.ite_none_left_eq_some, Option.bind_eq_some_iff,
    Option.map_eq_some_iff] at h
  obtain ⟨-, exponent, -, units, hunits, rfl⟩ := h
  exact Binary64.isAligned_of_nearestDecimal? hunits

namespace Binary64

/-- Rounding a number at most doubles it. -/
theorem nearestUnits_one_le {units : Nat} (h : units ≠ 0) : nearestUnits units 1 ≤ 2 * units := by
  have hspacing : 2 ^ spacingExponent units ≤ units := by
    refine Nat.le_trans (Nat.pow_le_pow_right (by decide) ?_) (Nat.log2_self_le h)
    rw [spacingExponent_eq]
    omega
  unfold nearestUnits
  simp only [Nat.div_one, Nat.one_mul, Nat.pow_eq]
  generalize 2 ^ spacingExponent units = spacing at hspacing
  calc divideToEven units spacing * spacing
      ≤ (units / spacing + 1) * spacing := Nat.mul_le_mul_right _ (divideToEven_le _ _)
    _ = units / spacing * spacing + spacing := by rw [Nat.add_mul, Nat.one_mul]
    _ ≤ units + units := Nat.add_le_add (Nat.div_mul_le_self _ _) hspacing
    _ = 2 * units := (Nat.two_mul units).symm

/-- Whatever the unit, a word is far from infinity. -/
theorem nearestUnits_mul_lt {n : Nat} (h : n ≤ maxWord64) (hn : n ≠ 0) (scale : Nat) :
    nearestUnits (n * Nat.pow 2 scale) 1 < Nat.pow 2 (1024 + scale) := by
  have hpower : 0 < 2 ^ scale := Nat.two_pow_pos scale
  rw [Nat.pow_eq, Nat.pow_eq]
  calc nearestUnits (n * 2 ^ scale) 1
      ≤ 2 * (n * 2 ^ scale) := nearestUnits_one_le (Nat.mul_ne_zero hn hpower.ne')
    _ < 2 * (2 ^ 64 * 2 ^ scale) :=
        Nat.mul_lt_mul_of_pos_left (Nat.mul_lt_mul_of_pos_right (Nat.lt_succ_of_le h) hpower)
          (by decide)
    _ = 2 ^ (64 + scale + 1) := by rw [← Nat.pow_add, ← Nat.pow_succ']
    _ ≤ 2 ^ (1024 + scale) := Nat.pow_le_pow_right (by decide) (by omega)

theorem isSome_nearestDecimal? {n : Nat} (h : n ≤ maxWord64) :
    (nearestDecimal? n 0).isSome = true := by
  -- Twenty digits are far from where a number is too large.
  have hlength : (digits n).length ≤ 20 := by
    refine length_digits_le (Nat.lt_of_le_of_lt h ?_)
    decide
  unfold nearestDecimal?
  simp only
  split
  · rfl
  · rename_i hzero
    have hn : n ≠ 0 := by
      rintro rfl
      exact hzero (by simp)
    have hscale : n * Nat.pow 10 (0 : Int).toNat = n := Nat.mul_one n
    have hunits : nearestUnits (n * Nat.pow 2 unitsInOne) 1 < infinityUnits := by
      unfold infinityUnits
      exact nearestUnits_mul_lt h hn unitsInOne
    have hmagnitude : ¬400 < (0 : Int) + (digits n).length := by omega
    rw [if_neg hmagnitude, if_pos (Int.le_refl 0), hscale, if_pos hunits]
    rfl

end Binary64

/-- The digits of a word are those of a floating point number. -/
theorem isSome_readBinary64?_digits {n : Nat} (h : n ≤ maxWord64) :
    (readBinary64? (digits n)).isSome = true := by
  obtain ⟨c, s, hdigits, hc⟩ := exists_digits_eq_cons n
  have hsign : splitSign (digits n) = (false, digits n) := by
    simp [hdigits, splitSign, hc '+' rfl, hc '-' rfl]
  have hwhole : (digits n).takeWhile isDigit = digits n :=
    List.takeWhile_eq_self_iff.2 isDigit_of_mem_digits
  have hafter : (digits n).dropWhile isDigit = [] :=
    List.dropWhile_eq_nil_iff.2 isDigit_of_mem_digits
  have hsome := Binary64.isSome_nearestDecimal? h
  simp only [readBinary64?, hsign, hwhole, hafter, List.append_nil, digitsValue_digits]
  simpa [hdigits, readExponent?] using hsome

end CsvSchema.Decimal
