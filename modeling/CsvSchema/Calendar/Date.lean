import CsvSchema.Decimal.Natural

/-!
# Calendar days

Days of the Gregorian calendar, extended to all years.  A date always names a day that exists, and
dates are ordered as time passes.
-/

namespace CsvSchema.Calendar

/-- Whether a year has a 29 February. -/
def isLeapYear (year : Int) : Bool :=
  year % 4 == 0 && (year % 100 != 0 || year % 400 == 0)

/-- The number of days of a month, none for a month that does not exist. -/
def daysInMonth (year : Int) (month : Nat) : Nat :=
  match month with
  | 1 | 3 | 5 | 7 | 8 | 10 | 12 => 31
  | 4 | 6 | 9 | 11 => 30
  | 2 => if isLeapYear year then 29 else 28
  | _ => 0

/-- A year, a month and a day that name a day of the calendar. -/
def IsDay (year : Int) (month day : Nat) : Prop :=
  1 ≤ month ∧ month ≤ 12 ∧ 1 ≤ day ∧ day ≤ daysInMonth year month

instance (year : Int) (month day : Nat) : Decidable (IsDay year month day) := by
  unfold IsDay; infer_instance

/-- A day of the calendar. -/
structure Date where
  year : Int
  month : Nat
  day : Nat
  isDay : IsDay year month day
  deriving DecidableEq

namespace Date

/-- The day with these numbers, if there is one. -/
def ofNumbers? (year : Int) (month day : Nat) : Option Date :=
  if h : IsDay year month day then some ⟨year, month, day, h⟩ else none

/-- Whether a day is another day or an earlier one. -/
def notAfter (a b : Date) : Bool :=
  a.year < b.year || (a.year == b.year &&
    (a.month < b.month || (a.month == b.month && a.day ≤ b.day)))

instance : LE Date := ⟨fun a b => a.notAfter b = true⟩

instance (a b : Date) : Decidable (a ≤ b) := inferInstanceAs (Decidable (a.notAfter b = true))

theorem daysInMonth_pos {year : Int} {month : Nat} (h : 1 ≤ month ∧ month ≤ 12) :
    1 ≤ daysInMonth year month := by
  have cases : month = 1 ∨ month = 2 ∨ month = 3 ∨ month = 4 ∨ month = 5 ∨ month = 6 ∨
      month = 7 ∨ month = 8 ∨ month = 9 ∨ month = 10 ∨ month = 11 ∨ month = 12 := by omega
  rcases cases with rfl | rfl | rfl | rfl | rfl | rfl | rfl | rfl | rfl | rfl | rfl | rfl <;>
    simp only [daysInMonth] <;> try omega
  split <;> omega

/-- The day after. -/
def next (d : Date) : Date :=
  if h : d.day < daysInMonth d.year d.month then
    ⟨d.year, d.month, d.day + 1, d.isDay.1, d.isDay.2.1, by omega, h⟩
  else if h : d.month < 12 then
    ⟨d.year, d.month + 1, 1, by omega, by omega, by omega, daysInMonth_pos (by omega)⟩
  else ⟨d.year + 1, 1, 1, by decide, by decide, by decide, by simp [daysInMonth]⟩

/-- The day before. -/
def previous (d : Date) : Date :=
  if h : 1 < d.day then
    ⟨d.year, d.month, d.day - 1, d.isDay.1, d.isDay.2.1, by omega, by have := d.isDay.2.2.2; omega⟩
  else if h : 1 < d.month then
    ⟨d.year, d.month - 1, daysInMonth d.year (d.month - 1), by omega,
      by have := d.isDay.2.1; omega,
      daysInMonth_pos ⟨by omega, by have := d.isDay.2.1; omega⟩, Nat.le_refl _⟩
  else ⟨d.year - 1, 12, 31, by decide, by decide, by decide, by simp [daysInMonth]⟩

/-- Apply a step a number of times. -/
def steps (step : Date → Date) : Nat → Date → Date
  | 0, d => d
  | n + 1, d => steps step n (step d)

/-- The day a number of days later, or earlier if the number is negative. -/
def addDays (d : Date) (days : Int) : Date :=
  if 0 ≤ days then steps next days.toNat d else steps previous (-days).toNat d

/-- The digits of a year: four of them, with a sign before year zero and after 9999. -/
def yearText (year : Int) : List Char :=
  if 0 ≤ year && year ≤ 9999 then Decimal.paddedDigits 4 year.toNat
  else (if year < 0 then '-' else '+') :: Decimal.paddedDigits 4 year.natAbs

/-- The text of a date, as in `2024-02-29`. -/
def chars (d : Date) : List Char :=
  yearText d.year ++ '-' :: Decimal.paddedDigits 2 d.month ++ '-' :: Decimal.paddedDigits 2 d.day

/-- The text of a date as a string. -/
def text (d : Date) : String := String.ofList d.chars

end Date

end CsvSchema.Calendar
