import Mathlib.Order.Monotone.Basic
import CsvSchema.Calendar.Date

/-!
# The days in a row

Every day has a number, one more than the day before, so that moving by days is adding to the number
and the order of the days is the order of their numbers.  Day one is 1 January of year one.
-/

namespace CsvSchema.Calendar

/-- The days of the years from year one on that are before a year. -/
def daysBeforeYear (year : Int) : Int :=
  365 * (year - 1) + (year - 1) / 4 - (year - 1) / 100 + (year - 1) / 400

/-- The days of the months of a year that are before a month. -/
def daysBeforeMonth (year : Int) : Nat → Nat
  | 0 => 0
  | month + 1 => daysBeforeMonth year month + daysInMonth year month

theorem daysBeforeMonth_one (year : Int) : daysBeforeMonth year 1 = 0 := rfl

theorem daysBeforeMonth_mono (year : Int) : Monotone (daysBeforeMonth year) :=
  monotone_nat_of_le_succ fun _ => Nat.le_add_right _ _

/-- A year has the days of its twelve months, in a leap year one more. -/
theorem daysBeforeMonth_thirteen (year : Int) :
    daysBeforeMonth year 13 = if isLeapYear year then 366 else 365 := by
  simp only [daysBeforeMonth, daysInMonth]
  split <;> rfl

theorem daysBeforeYear_add_one (year : Int) :
    daysBeforeYear (year + 1) = daysBeforeYear year + daysBeforeMonth year 13 := by
  rw [daysBeforeMonth_thirteen, daysBeforeYear, daysBeforeYear]
  by_cases hleap : isLeapYear year = true
  · rw [if_pos hleap]
    simp only [isLeapYear, Bool.and_eq_true, Bool.or_eq_true, beq_iff_eq, bne_iff_ne] at hleap
    omega
  · rw [if_neg hleap]
    simp only [isLeapYear, Bool.and_eq_true, Bool.or_eq_true, beq_iff_eq, bne_iff_ne] at hleap
    omega

theorem daysBeforeYear_mono {year₁ year₂ : Int} (h : year₁ ≤ year₂) :
    daysBeforeYear year₁ ≤ daysBeforeYear year₂ := by
  simp only [daysBeforeYear]
  omega

namespace Date

/-- The number of a day. -/
def number (d : Date) : Int := daysBeforeYear d.year + daysBeforeMonth d.year d.month + d.day

section Moving

theorem number_next (d : Date) : d.next.number = d.number + 1 := by
  have hday := d.isDay.2.2.2
  -- The next day is in the same month, the first of the next month, or New Year's Day.
  unfold next
  split
  · simp only [number]
    omega
  · split
    · simp only [number, daysBeforeMonth]
      omega
    · have hmonth : d.month = 12 := by
        have := d.isDay.2.1
        omega
      have hlast : d.day = daysInMonth d.year 12 := by
        rw [← hmonth]
        omega
      have hmonths : daysBeforeMonth d.year 13 =
          daysBeforeMonth d.year 12 + daysInMonth d.year 12 := rfl
      have hyear := daysBeforeYear_add_one d.year
      simp only [number, daysBeforeMonth_one, hmonth]
      omega

theorem number_previous (d : Date) : d.previous.number = d.number - 1 := by
  have hday := d.isDay.2.2.1
  unfold previous
  -- The day before is in the same month, at the end of the month before, or at the end of a year.
  split
  · simp only [number]
    omega
  · split
    · rename_i hmonth
      obtain ⟨month, hsucc⟩ : ∃ month, d.month = month + 1 := ⟨d.month - 1, by omega⟩
      simp only [number, hsucc, Nat.add_sub_cancel, daysBeforeMonth]
      omega
    · have hmonth : d.month = 1 := by
        have := d.isDay.1
        omega
      have hmonths : daysBeforeMonth (d.year - 1) 13 = daysBeforeMonth (d.year - 1) 12 + 31 := rfl
      have hyear := daysBeforeYear_add_one (d.year - 1)
      rw [Int.sub_add_cancel] at hyear
      simp only [number, daysBeforeMonth_one, hmonth]
      omega

theorem number_steps {step : Date → Date} {change : Int}
    (h : ∀ d, (step d).number = d.number + change) (n : Nat) (d : Date) :
    (steps step n d).number = d.number + n * change := by
  induction n generalizing d with
  | zero => simp [steps]
  | succ n ih =>
      rw [steps, ih, h, Int.natCast_succ, Int.add_mul, Int.one_mul, Int.add_assoc,
        Int.add_comm change]

/-- Moving by days adds to the number. -/
theorem number_addDays (d : Date) (days : Int) : (d.addDays days).number = d.number + days := by
  unfold addDays
  split
  · rw [number_steps number_next]
    omega
  · rw [number_steps number_previous]
    omega

end Moving

section Order

variable {a b : Date}

theorem number_le (d : Date) :
    d.number ≤ daysBeforeYear d.year + daysBeforeMonth d.year (d.month + 1) := by
  have hday := d.isDay.2.2.2
  simp only [number, daysBeforeMonth]
  omega

theorem lt_number (d : Date) :
    daysBeforeYear d.year + daysBeforeMonth d.year d.month < d.number := by
  have hday := d.isDay.2.2.1
  simp only [number]
  omega

/-- A day is before another one if its year is lower, or in the same year its month, or in the same
month its place. -/
def IsBefore (a b : Date) : Prop :=
  a.year < b.year ∨ a.year = b.year ∧
    (a.month < b.month ∨ a.month = b.month ∧ a.day < b.day)

theorem IsBefore.number_lt (h : a.IsBefore b) : a.number < b.number := by
  -- The start of a year, or else of a month, lies between the two days.
  rcases h with hyear | ⟨hyear, hmonth | ⟨hmonth, hday⟩⟩
  · have hmonths : daysBeforeMonth a.year (a.month + 1) ≤ daysBeforeMonth a.year 13 :=
      daysBeforeMonth_mono a.year (Nat.succ_le_succ a.isDay.2.1)
    calc a.number
        ≤ daysBeforeYear a.year + daysBeforeMonth a.year (a.month + 1) := a.number_le
      _ ≤ daysBeforeYear a.year + daysBeforeMonth a.year 13 := by omega
      _ = daysBeforeYear (a.year + 1) := (daysBeforeYear_add_one a.year).symm
      _ ≤ daysBeforeYear b.year := daysBeforeYear_mono hyear
      _ ≤ daysBeforeYear b.year + daysBeforeMonth b.year b.month := by omega
      _ < b.number := b.lt_number
  · have hmonths : daysBeforeMonth b.year (a.month + 1) ≤ daysBeforeMonth b.year b.month :=
      daysBeforeMonth_mono b.year (Nat.succ_le_of_lt hmonth)
    calc a.number
        ≤ daysBeforeYear b.year + daysBeforeMonth b.year (a.month + 1) := hyear ▸ a.number_le
      _ ≤ daysBeforeYear b.year + daysBeforeMonth b.year b.month := by omega
      _ < b.number := b.lt_number
  · simp only [number, hyear, hmonth]
    omega

/-- Days are comparable. -/
theorem isBefore_trichotomy (a b : Date) : a.IsBefore b ∨ a = b ∨ b.IsBefore a := by
  obtain ⟨year₁, month₁, day₁, _⟩ := a
  obtain ⟨year₂, month₂, day₂, _⟩ := b
  simp only [IsBefore, mk.injEq]
  omega

/-- Different days have different numbers. -/
theorem number_injective : Function.Injective number := by
  intro a b h
  rcases isBefore_trichotomy a b with hbefore | heq | hafter
  · exact absurd hbefore.number_lt (by omega)
  · exact heq
  · exact absurd hafter.number_lt (by omega)

/-- The order of the days is the order of their numbers. -/
theorem le_iff_number_le : a ≤ b ↔ a.number ≤ b.number := by
  have hle : a ≤ b ↔ ¬b.IsBefore a := by
    change a.notAfter b = true ↔ _
    simp only [notAfter, IsBefore, Bool.or_eq_true, Bool.and_eq_true, decide_eq_true_eq,
      beq_iff_eq]
    omega
  rw [hle]
  rcases isBefore_trichotomy a b with hbefore | rfl | hafter
  · have hlt := hbefore.number_lt
    exact iff_of_true (fun hafter => absurd hafter.number_lt (by omega)) hlt.le
  · exact iff_of_true (fun hbefore => absurd hbefore.number_lt (by omega)) le_rfl
  · exact iff_of_false (fun hno => hno hafter) (by have := hafter.number_lt; omega)

end Order

end Date

end CsvSchema.Calendar
