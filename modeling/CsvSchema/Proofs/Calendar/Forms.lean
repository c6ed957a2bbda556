import Mathlib.Data.List.Basic
import CsvSchema.Calendar.Lexical
import CsvSchema.Proofs.Decimal.Digits
import CsvSchema.Proofs.Text.Pieces

/-!
# The forms of dates and times

What a date, a time, or a date with a time looks like is said here once, as a relation between a
text and what it writes, and each reader returns a value exactly for the texts that write it.
Nothing here has a zone.
-/

namespace CsvSchema.Calendar

open Decimal (isDigit isDigits digitsValue digitValue)

section Numerals

/-- A number in a fixed number of digits. -/
def IsNumeral (width : Nat) (s : List Char) : Prop :=
  s.length = width ∧ ∀ c ∈ s, isDigit c = true

instance (width : Nat) (s : List Char) : Decidable (IsNumeral width s) :=
  decidable_of_iff (s.length = width ∧ s.all isDigit = true) (and_congr_right' List.all_eq_true)

theorem isNumeral_two_iff {s : List Char} :
    IsNumeral 2 s ↔ ∃ a b, s = [a, b] ∧ isDigit a = true ∧ isDigit b = true := by
  rw [IsNumeral, List.length_eq_two]
  constructor
  · rintro ⟨⟨a, b, rfl⟩, hdigits⟩
    exact ⟨a, b, rfl, by simpa using hdigits⟩
  · rintro ⟨a, b, rfl, ha, hb⟩
    exact ⟨⟨a, b, rfl⟩, by simp [ha, hb]⟩

theorem isNumeral_four_iff {s : List Char} :
    IsNumeral 4 s ↔ ∃ a b c d, s = [a, b, c, d] ∧ isDigit a = true ∧ isDigit b = true ∧
      isDigit c = true ∧ isDigit d = true := by
  constructor
  · rintro ⟨hlength, hdigits⟩
    match s, hlength with
    | [a, b, c, d], _ => exact ⟨a, b, c, d, rfl, by simpa using hdigits⟩
  · rintro ⟨a, b, c, d, rfl, ha, hb, hc, hd⟩
    exact ⟨rfl, by simp [ha, hb, hc, hd]⟩

theorem digitsValue_pair (a b : Char) :
    digitsValue [a, b] = 10 * digitValue a + digitValue b := by
  simp only [digitsValue, List.foldl_cons, List.foldl_nil]
  omega

end Numerals

section Dates

/-- The numbers that a date has. -/
def Date.Has (date : Date) (year : Int) (month day : Nat) : Prop :=
  date.year = year ∧ date.month = month ∧ date.day = day

theorem Date.ofNumbers?_eq_some_iff {year : Int} {month day : Nat} {date : Date} :
    Date.ofNumbers? year month day = some date ↔ date.Has year month day := by
  obtain ⟨year', month', day', hday⟩ := date
  unfold Date.ofNumbers? Date.Has
  split
  · simp [eq_comm]
  · rename_i hno
    constructor
    · intro h
      cases h
    · rintro ⟨rfl, rfl, rfl⟩
      exact absurd hday hno

/-- A date in the form `yyyy-mm-dd`. -/
def WritesDate (s : List Char) (date : Date) : Prop :=
  ∃ year month day, s = year ++ '-' :: (month ++ '-' :: day) ∧
    IsNumeral 4 year ∧ IsNumeral 2 month ∧ IsNumeral 2 day ∧
    date.Has (digitsValue year) (digitsValue month) (digitsValue day)

theorem readDate?_eq_some_iff {s : List Char} {date : Date} :
    readDate? s = some date ↔ WritesDate s date := by
  constructor
  · intro h
    unfold readDate? at h
    split at h
    · rename_i y₁ y₂ y₃ y₄ m₁ m₂ d₁ d₂
      simp only [Option.ite_none_right_eq_some, List.all_cons, List.all_nil, Bool.and_true,
        Bool.and_eq_true] at h
      obtain ⟨⟨hy₁, hy₂, hy₃, hy₄, hm₁, hm₂, hd₁, hd₂⟩, hdate⟩ := h
      exact ⟨[y₁, y₂, y₃, y₄], [m₁, m₂], [d₁, d₂], rfl,
        isNumeral_four_iff.2 ⟨_, _, _, _, rfl, hy₁, hy₂, hy₃, hy₄⟩,
        isNumeral_two_iff.2 ⟨_, _, rfl, hm₁, hm₂⟩, isNumeral_two_iff.2 ⟨_, _, rfl, hd₁, hd₂⟩,
        Date.ofNumbers?_eq_some_iff.1 hdate⟩
    · cases h
  · rintro ⟨year, month, day, rfl, hyear, hmonth, hday, hdate⟩
    obtain ⟨y₁, y₂, y₃, y₄, rfl, hy₁, hy₂, hy₃, hy₄⟩ := isNumeral_four_iff.1 hyear
    obtain ⟨m₁, m₂, rfl, hm₁, hm₂⟩ := isNumeral_two_iff.1 hmonth
    obtain ⟨d₁, d₂, rfl, hd₁, hd₂⟩ := isNumeral_two_iff.1 hday
    rw [← Date.ofNumbers?_eq_some_iff] at hdate
    simp [readDate?, hy₁, hy₂, hy₃, hy₄, hm₁, hm₂, hd₁, hd₂, hdate]

theorem WritesDate.length_eq {s : List Char} {date : Date} (h : WritesDate s date) :
    s.length = 10 := by
  obtain ⟨year, month, day, rfl, hyear, hmonth, hday, -⟩ := h
  rw [List.length_append, List.length_cons, List.length_append, List.length_cons, hyear.1, hmonth.1,
    hday.1]

theorem isDigit_or_hyphen_of_mem_date {s : List Char} {date : Date} (h : WritesDate s date) :
    ∀ c ∈ s, isDigit c = true ∨ c = '-' := by
  obtain ⟨year, month, day, rfl, ⟨-, hyear⟩, ⟨-, hmonth⟩, ⟨-, hday⟩, -⟩ := h
  have hdays : ∀ c ∈ '-' :: day, isDigit c = true ∨ c = '-' :=
    List.forall_mem_cons.2 ⟨.inr rfl, fun c hc => .inl (hday c hc)⟩
  have hmonths : ∀ c ∈ '-' :: (month ++ '-' :: day), isDigit c = true ∨ c = '-' :=
    List.forall_mem_cons.2 ⟨.inr rfl,
      List.forall_mem_append.2 ⟨fun c hc => .inl (hmonth c hc), hdays⟩⟩
  exact List.forall_mem_append.2 ⟨fun c hc => .inl (hyear c hc), hmonths⟩

end Dates

section Times

/-- A fraction of a second, in nanoseconds, the rest of it dropped. -/
def WritesFraction (s : List Char) (nano : Nat) : Prop :=
  s = [] ∧ nano = 0 ∨
    ∃ digits, s = '.' :: digits ∧ isDigits digits = true ∧
      nano = digitsValue digits * nanosPerSecond / 10 ^ digits.length

/-- Digits after the ninth do not count for the nanoseconds. -/
theorem fractionNanos_eq {digits : List Char} (h : ∀ c ∈ digits, isDigit c = true) :
    fractionNanos digits = digitsValue digits * nanosPerSecond / 10 ^ digits.length := by
  have hnanos : nanosPerSecond = 10 ^ 9 := rfl
  rw [fractionNanos, Nat.pow_eq, hnanos]
  rcases Nat.le_total digits.length 9 with hshort | hlong
  · rw [List.take_of_length_le hshort, ← Nat.sub_add_cancel hshort, Nat.pow_add, ← Nat.mul_assoc,
      Nat.mul_div_cancel _ (Nat.pow_pos (by decide)), Nat.add_sub_cancel]
  · -- The digits after the ninth write less than one unit of the ninth.
    have hdropped : ∀ c ∈ digits.drop 9, isDigit c = true :=
      fun c hc => h c (List.mem_of_mem_drop hc)
    have hrest := Decimal.digitsValue_lt hdropped
    have hvalue := Decimal.digitsValue_append (digits.take 9) (digits.drop 9)
    rw [List.take_append_drop] at hvalue
    rw [List.length_drop] at hrest hvalue
    rw [Nat.sub_eq_zero_of_le hlong, ← Nat.sub_add_cancel hlong, Nat.pow_add,
      Nat.mul_div_mul_right _ _ (by decide), hvalue, Nat.pow_zero, Nat.mul_one, Nat.mul_comm,
      Nat.mul_add_div (Nat.pow_pos (by decide)), Nat.div_eq_of_lt hrest, Nat.add_zero]

theorem readFraction?_eq_some_iff {s : List Char} {nano : Nat} :
    readFraction? s = some nano ↔ WritesFraction s nano := by
  unfold readFraction? WritesFraction
  split
  · constructor
    · intro h
      exact .inl ⟨rfl, (Option.some.inj h).symm⟩
    · rintro (⟨-, rfl⟩ | ⟨digits, hcons, -⟩)
      · rfl
      · cases hcons
  · rename_i digits
    simp only [Option.ite_none_right_eq_some, Option.some.injEq]
    constructor
    · rintro ⟨hdigits, rfl⟩
      exact .inr ⟨digits, rfl, hdigits, fractionNanos_eq (Decimal.isDigits_iff.1 hdigits).2⟩
    · rintro (⟨hnil, -⟩ | ⟨_, hcons, hdigits, rfl⟩)
      · cases hnil
      · cases hcons
        exact ⟨hdigits, fractionNanos_eq (Decimal.isDigits_iff.1 hdigits).2⟩
  · rename_i hnil hpoint
    constructor
    · intro h
      cases h
    · rintro (⟨rfl, -⟩ | ⟨digits, rfl, -⟩)
      · exact absurd rfl hnil
      · exact absurd rfl (hpoint digits)

theorem WritesFraction.lt {s : List Char} {nano : Nat} (h : WritesFraction s nano) :
    nano < nanosPerSecond := by
  rcases h with ⟨-, rfl⟩ | ⟨digits, -, hdigits, rfl⟩
  · decide
  · rw [Nat.div_lt_iff_lt_mul (Nat.pow_pos (by decide)), Nat.mul_comm]
    have hvalue := Decimal.digitsValue_lt (Decimal.isDigits_iff.1 hdigits).2
    exact Nat.mul_lt_mul_of_pos_left hvalue (by decide)

/-- The numbers that a clock shows.  Second 60 is the last second of the minute, with a whole second
more of nanoseconds. -/
def Time.Has (time : Time) (hour minute second nano : Nat) : Prop :=
  hour ≤ 23 ∧ minute ≤ 59 ∧ second ≤ 60 ∧
    time.second = hour * 3600 + minute * 60 + min second 59 ∧
    time.nano = if second = 60 then nanosPerSecond + nano else nano

theorem Time.ofClock?_eq_some_iff {hour minute second nano : Nat} (hnano : nano < nanosPerSecond)
    {time : Time} :
    Time.ofClock? hour minute second nano = some time ↔ time.Has hour minute second nano := by
  obtain ⟨second', nano', hsecond', hnano'⟩ := time
  unfold Time.ofClock? Time.Has
  split
  · split
    · simp only [Option.some.injEq, Time.mk.injEq]
      omega
    · simp only [Option.some.injEq, Time.mk.injEq]
      omega
  · rename_i hrange
    constructor
    · intro h
      cases h
    · rintro ⟨hhour, hminute, hsecond, -⟩
      exact absurd ⟨by omega, by omega, hsecond, hnano⟩ hrange

/-- A time in the form `hh:mm:ss`, perhaps with a fraction of the second. -/
def WritesTime (s : List Char) (time : Time) : Prop :=
  ∃ hour minute second fraction nano,
    s = hour ++ ':' :: (minute ++ ':' :: (second ++ fraction)) ∧
    IsNumeral 2 hour ∧ IsNumeral 2 minute ∧ IsNumeral 2 second ∧ WritesFraction fraction nano ∧
    time.Has (digitsValue hour) (digitsValue minute) (digitsValue second) nano

theorem readTime?_eq_some_iff {s : List Char} {time : Time} :
    readTime? s = some time ↔ WritesTime s time := by
  constructor
  · intro h
    unfold readTime? at h
    split at h
    · rename_i h₁ h₂ m₁ m₂ s₁ s₂ rest
      simp only [Option.ite_none_right_eq_some, List.all_cons, List.all_nil, Bool.and_true,
        Bool.and_eq_true, Option.bind_eq_some_iff, readFraction?_eq_some_iff] at h
      obtain ⟨⟨hh₁, hh₂, hm₁, hm₂, hs₁, hs₂⟩, nano, hnano, htime⟩ := h
      exact ⟨[h₁, h₂], [m₁, m₂], [s₁, s₂], rest, nano, rfl,
        isNumeral_two_iff.2 ⟨_, _, rfl, hh₁, hh₂⟩, isNumeral_two_iff.2 ⟨_, _, rfl, hm₁, hm₂⟩,
        isNumeral_two_iff.2 ⟨_, _, rfl, hs₁, hs₂⟩, hnano,
        (Time.ofClock?_eq_some_iff hnano.lt).1 htime⟩
    · cases h
  · rintro ⟨hour, minute, second, rest, nano, rfl, hhour, hminute, hsecond, hnano, htime⟩
    obtain ⟨h₁, h₂, rfl, hh₁, hh₂⟩ := isNumeral_two_iff.1 hhour
    obtain ⟨m₁, m₂, rfl, hm₁, hm₂⟩ := isNumeral_two_iff.1 hminute
    obtain ⟨s₁, s₂, rfl, hs₁, hs₂⟩ := isNumeral_two_iff.1 hsecond
    rw [← Time.ofClock?_eq_some_iff hnano.lt] at htime
    rw [← readFraction?_eq_some_iff] at hnano
    simp [readTime?, hh₁, hh₂, hm₁, hm₂, hs₁, hs₂, hnano, htime]

theorem isDigit_or_mark_of_mem_time {s : List Char} {time : Time} (h : WritesTime s time) :
    ∀ c ∈ s, isDigit c = true ∨ c = ':' ∨ c = '.' := by
  obtain ⟨hour, minute, second, fraction, nano, rfl, ⟨-, hhour⟩, ⟨-, hminute⟩, ⟨-, hsecond⟩,
    hfraction, -⟩ := h
  have hfractions : ∀ c ∈ fraction, isDigit c = true ∨ c = ':' ∨ c = '.' := by
    rcases hfraction with ⟨rfl, -⟩ | ⟨digits, rfl, hdigits, -⟩
    · simp
    · have hdigits := (Decimal.isDigits_iff.1 hdigits).2
      exact List.forall_mem_cons.2 ⟨.inr (.inr rfl), fun c hc => .inl (hdigits c hc)⟩
  have hseconds : ∀ c ∈ ':' :: (second ++ fraction), isDigit c = true ∨ c = ':' ∨ c = '.' :=
    List.forall_mem_cons.2 ⟨.inr (.inl rfl),
      List.forall_mem_append.2 ⟨fun c hc => .inl (hsecond c hc), hfractions⟩⟩
  have hminutes : ∀ c ∈ ':' :: (minute ++ ':' :: (second ++ fraction)),
      isDigit c = true ∨ c = ':' ∨ c = '.' :=
    List.forall_mem_cons.2 ⟨.inr (.inl rfl),
      List.forall_mem_append.2 ⟨fun c hc => .inl (hminute c hc), hseconds⟩⟩
  exact List.forall_mem_append.2 ⟨fun c hc => .inl (hhour c hc), hminutes⟩

/-- A date and a time with the letter T between them. -/
def WritesLocal (s : List Char) (t : DateTime) : Prop :=
  ∃ date time, s = date ++ 'T' :: time ∧ WritesDate date t.date ∧ WritesTime time t.time

theorem readLocal?_eq_some_iff {s : List Char} {t : DateTime} :
    readLocal? s = some t ↔ WritesLocal s t := by
  simp only [readLocal?, Option.bind_eq_some_iff, Option.map_eq_some_iff, readDate?_eq_some_iff,
    readTime?_eq_some_iff]
  constructor
  · rintro ⟨⟨first, second⟩, hparts, date, hdate, time, htime, rfl⟩
    exact ⟨first, second, (Text.splitFirst?_eq_some_iff.1 hparts).1, hdate, htime⟩
  · rintro ⟨first, second, rfl, hdate, htime⟩
    -- The text is split at its first T, which is the one behind the date: a date has no letter.
    refine ⟨(first, second), Text.splitFirst?_eq_some_iff.2 ⟨rfl, fun hmem => ?_⟩, t.date, hdate,
      t.time, htime, rfl⟩
    rcases isDigit_or_hyphen_of_mem_date hdate 'T' hmem with hdigit | hhyphen
    · exact absurd hdigit (by decide)
    · exact absurd hhyphen (by decide)

end Times

end CsvSchema.Calendar
