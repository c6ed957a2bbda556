import CsvSchema.Calendar.Partial
import CsvSchema.Proofs.Calendar.Components
import CsvSchema.Proofs.Calendar.Texts

/-!
# Completing dates that are known in part

A date that is known in part fits together exactly if it can be completed: if some date has the
known components, `isPartialDate_iff_isCompletable`.  The date to look at has the leap year 2000 for
an unknown year, January for an unknown month and the first for an unknown day, because no other
completion allows more.  A known month or day may be written with a plus sign in front of its only
digit, which no component of a date may; it is then completed without the sign.
-/

namespace CsvSchema.Calendar

open Decimal (isDigit isDigits digitsValue digits readNatural? maxWord32)

section Days

variable {year : Int} {month day : Nat}

/-- In the year 2000 every month is as long as it can be. -/
theorem daysInMonth_le_leap (year : Int) (month : Nat) :
    daysInMonth year month ≤ daysInMonth 2000 month := by
  unfold daysInMonth
  split <;> first | exact Nat.le_refl _ | (split <;> decide)

theorem IsDay.inLeapYear (h : IsDay year month day) : IsDay 2000 month day :=
  ⟨h.1, h.2.1, h.2.2.1, Nat.le_trans h.2.2.2 (daysInMonth_le_leap year month)⟩

theorem IsDay.inJanuary (h : IsDay year month day) : IsDay year 1 day :=
  ⟨by decide, by decide, h.2.2.1, h.day_le⟩

theorem IsDay.first (h : IsDay year month day) : IsDay year month 1 :=
  ⟨h.1, h.2.1, Nat.le_refl 1, Nat.le_trans h.2.2.1 h.2.2.2⟩

end Days

section Components

/-- Whether a component is a plus sign and a digit. -/
def hasPlus : List Char → Bool
  | ['+', c] => isDigit c
  | _ => false

/-- A component without a plus sign in front of a single digit. -/
def withoutPlus : List Char → List Char
  | ['+', c] => if isDigit c then [c] else ['+', c]
  | part => part

theorem isOneOrTwoDigits_iff_length_le {part : List Char} :
    isOneOrTwoDigits part = true ↔ isDigits part = true ∧ part.length ≤ 2 := by
  rw [isOneOrTwoDigits, Bool.and_eq_true, and_comm]
  refine and_congr_right fun hdigits => ?_
  have hpos := List.length_pos_iff.2 (Decimal.isDigits_iff.1 hdigits).1
  simp only [Bool.or_eq_true, beq_iff_eq]
  omega

/-- Without its plus sign, a component of two characters is one or two digits exactly if there are
digits with or without a plus sign in front of them. -/
theorem withoutPlus_eq_iff {part ds : List Char} :
    withoutPlus part = ds ∧ isOneOrTwoDigits ds = true ↔
      (part = ds ∨ part = '+' :: ds) ∧ isDigits ds = true ∧ part.length ≤ 2 := by
  rw [isOneOrTwoDigits_iff_length_le]
  constructor
  -- Only a sign in front of one digit is dropped.
  · rintro ⟨hpart, hdigits, hlength⟩
    unfold withoutPlus at hpart
    split at hpart
    · rename_i c
      split at hpart
      · subst hpart
        exact ⟨.inr rfl, hdigits, Nat.le_refl 2⟩
      · subst hpart
        exact absurd hdigits (Decimal.not_isDigits_plus [c])
    · exact ⟨.inl hpart, hdigits, hpart ▸ hlength⟩
  · rintro ⟨rfl | rfl, hdigits, hlength⟩
    · refine ⟨?_, hdigits, hlength⟩
      unfold withoutPlus
      split
      · exact absurd hdigits (Decimal.not_isDigits_plus _)
      · rfl
    · match ds, hlength with
      | [], _ => cases hdigits
      | [c], _ =>
          have hc : isDigit c = true := (Decimal.isDigits_iff.1 hdigits).2 c List.mem_cons_self
          exact ⟨if_pos hc, hdigits, Nat.le_succ 1⟩

theorem withoutPlus_of_not_hasPlus {part : List Char} (h : hasPlus part = false) :
    withoutPlus part = part := by
  unfold withoutPlus
  split
  · rename_i c
    rw [hasPlus] at h
    rw [if_neg (by rw [h]; exact Bool.false_ne_true)]
  · rfl

/-- A known component is a number in one or two digits, but for a plus sign. -/
theorem knownNumber?_eq_some_iff {largest n : Nat} (hlargest : largest ≤ maxWord32)
    {part : List Char} :
    knownNumber? largest part = some n ↔
      isOneOrTwoDigits (withoutPlus part) = true ∧ digitsValue (withoutPlus part) = n ∧
        1 ≤ n ∧ n ≤ largest := by
  have hknown : knownNumber? largest part = some n ↔
      readNatural? maxWord32 part = some n ∧ 1 ≤ n ∧ n ≤ largest ∧ part.length ≤ 2 := by
    unfold knownNumber?
    cases readNatural? maxWord32 part with
    | none => simp
    | some found =>
        simp only [Bool.and_eq_true, decide_eq_true_eq, Option.ite_none_right_eq_some,
          Option.some.injEq]
        constructor
        · rintro ⟨⟨⟨hone, hmost⟩, hlength⟩, rfl⟩
          exact ⟨rfl, hone, hmost, hlength⟩
        · rintro ⟨rfl, hone, hmost, hlength⟩
          exact ⟨⟨⟨hone, hmost⟩, hlength⟩, rfl⟩
  rw [hknown, Decimal.readNatural?_eq_some_iff]
  constructor
  · rintro ⟨⟨ds, hpart, hdigits, hvalue, -⟩, hone, hmost, hlength⟩
    obtain ⟨rfl, hds⟩ := withoutPlus_eq_iff.2 ⟨hpart, hdigits, hlength⟩
    exact ⟨hds, hvalue, hone, hmost⟩
  · rintro ⟨hds, hvalue, hone, hmost⟩
    obtain ⟨hpart, hdigits, hlength⟩ := withoutPlus_eq_iff.1 ⟨rfl, hds⟩
    exact ⟨⟨_, hpart, hdigits, hvalue, Nat.le_trans hmost hlargest⟩, hone, hmost, hlength⟩

theorem isUnknown_withoutPlus (part : List Char) :
    isUnknown (withoutPlus part) = isUnknown part := by
  unfold withoutPlus
  split
  · rename_i c
    split
    · rename_i hc
      have hstar : c ≠ '*' := by
        rintro rfl
        exact absurd hc (by decide)
      have hmark : c ≠ '?' := by
        rintro rfl
        exact absurd hc (by decide)
      simp [isUnknown, hstar, hmark]
    · rfl
  · rfl

end Components

section NamedDays

/-- Components that name a day: a year in four digits and a month and a day in one or two. -/
def NamesDay (year month day : List Char) : Prop :=
  IsNumeral 4 year ∧ isOneOrTwoDigits month = true ∧ isOneOrTwoDigits day = true ∧
    IsDay (digitsValue year) (digitsValue month) (digitsValue day)

theorem isSome_composeDate?_iff {year month day : String} :
    (composeDate? year month day).isSome = true ↔
      NamesDay year.toList month.toList day.toList := by
  rw [Option.isSome_iff_exists]
  simp only [composeDate?_eq_some_iff]
  constructor
  · rintro ⟨⟨_, _, _, hday⟩, hyear, hmonth, hdays, rfl, rfl, rfl⟩
    exact ⟨hyear, hmonth, hdays, hday⟩
  · rintro ⟨hyear, hmonth, hdays, hday⟩
    exact ⟨⟨_, _, _, hday⟩, hyear, hmonth, hdays, rfl, rfl, rfl⟩

variable {year month day : List Char}

theorem NamesDay.knownNumber?_month (h : NamesDay year (withoutPlus month) day) :
    knownNumber? 12 month = some (digitsValue (withoutPlus month)) :=
  (knownNumber?_eq_some_iff (by decide)).2 ⟨h.2.1, rfl, h.2.2.2.1, h.2.2.2.2.1⟩

theorem NamesDay.knownNumber?_day (h : NamesDay year month (withoutPlus day)) :
    knownNumber? 31 day = some (digitsValue (withoutPlus day)) :=
  (knownNumber?_eq_some_iff (by decide)).2 ⟨h.2.2.1, rfl, h.2.2.2.2.2.1, h.2.2.2.day_le⟩

theorem namesDay_first_iff : NamesDay year "1".toList "1".toList ↔ IsNumeral 4 year :=
  ⟨fun h => h.1, fun h => ⟨h, by decide, by decide, by decide, by decide, by decide,
    show 1 ≤ 31 by decide⟩⟩

/-- The first month is long enough for any day. -/
theorem namesDay_first_month_iff :
    NamesDay year "1".toList (withoutPlus day) ↔
      IsNumeral 4 year ∧ ∃ d, knownNumber? 31 day = some d := by
  constructor
  · intro h
    exact ⟨h.1, _, h.knownNumber?_day⟩
  · rintro ⟨hyear, d, hfound⟩
    obtain ⟨hdigits, rfl, hone, hmost⟩ := (knownNumber?_eq_some_iff (by decide)).1 hfound
    exact ⟨hyear, by decide, hdigits, by decide, by decide, hone, hmost⟩

/-- Every month has a first day. -/
theorem namesDay_first_day_iff :
    NamesDay year (withoutPlus month) "1".toList ↔
      IsNumeral 4 year ∧ ∃ m, knownNumber? 12 month = some m := by
  constructor
  · intro h
    exact ⟨h.1, _, h.knownNumber?_month⟩
  · rintro ⟨hyear, m, hfound⟩
    obtain ⟨hdigits, rfl, hone, hmost⟩ := (knownNumber?_eq_some_iff (by decide)).1 hfound
    exact ⟨hyear, hdigits, by decide, hone, hmost, by decide, Date.daysInMonth_pos ⟨hone, hmost⟩⟩

theorem namesDay_known_iff :
    NamesDay year (withoutPlus month) (withoutPlus day) ↔
      IsNumeral 4 year ∧ ∃ m d, knownNumber? 12 month = some m ∧ knownNumber? 31 day = some d ∧
        IsDay (digitsValue year) m d := by
  constructor
  · intro h
    exact ⟨h.1, _, _, h.knownNumber?_month, h.knownNumber?_day, h.2.2.2⟩
  · rintro ⟨hyear, m, d, hfoundMonth, hfoundDay, hday⟩
    obtain ⟨hmonths, rfl, -, -⟩ := (knownNumber?_eq_some_iff (by decide)).1 hfoundMonth
    obtain ⟨hdays, rfl, -, -⟩ := (knownNumber?_eq_some_iff (by decide)).1 hfoundDay
    exact ⟨hyear, hmonths, hdays, hday⟩

end NamedDays

section Completion

/-- A component, or another text for it if it is unknown. -/
def filled (default : String) (part : List Char) : List Char :=
  if isUnknown part then default.toList else part

theorem filled_of_isUnknown {default : String} {part : List Char} (h : isUnknown part = true) :
    filled default part = default.toList := if_pos h

theorem filled_of_known {default : String} {part : List Char} (h : isUnknown part = false) :
    filled default part = part := if_neg (by rw [h]; exact Bool.false_ne_true)

/-- A text for a component, which is the component itself if that is known. -/
def Completes (part whole : String) : Prop := isUnknown part.toList = false → whole = part

/-- Some date has the known components. -/
def IsCompletable (year month day : String) : Prop :=
  ∃ year' month' day', (composeDate? year' month' day').isSome = true ∧
    Completes year year' ∧ Completes month month' ∧ Completes day day'

theorem completes_filled (default part : String) :
    Completes part (String.ofList (filled default part.toList)) := by
  intro hknown
  rw [filled_of_known hknown, String.ofList_toList]

theorem Completes.toList_eq {part whole default : String} (h : Completes part whole)
    (hknown : isUnknown part.toList = false) : whole.toList = filled default part.toList := by
  rw [h hknown, filled_of_known hknown]

/-- If there is a completion, then the one with the year 2000, January and the first day. -/
theorem isCompletable_iff {year month day : String} :
    IsCompletable year month day ↔
      NamesDay (filled "2000" year.toList) (filled "1" month.toList) (filled "1" day.toList) := by
  constructor
  · rintro ⟨year', month', day', hsome, hyear, hmonth, hday⟩
    have hnames := isSome_composeDate?_iff.1 hsome
    -- The unknown components are exchanged one after the other, the year before the month.
    have hyears : NamesDay (filled "2000" year.toList) month'.toList day'.toList := by
      cases hunknown : isUnknown year.toList with
      | false => rwa [← hyear.toList_eq hunknown]
      | true =>
          rw [filled_of_isUnknown hunknown]
          exact ⟨by decide, hnames.2.1, hnames.2.2.1, hnames.2.2.2.inLeapYear⟩
    have hmonths : NamesDay (filled "2000" year.toList) (filled "1" month.toList) day'.toList := by
      cases hunknown : isUnknown month.toList with
      | false => rwa [← hmonth.toList_eq hunknown]
      | true =>
          rw [filled_of_isUnknown hunknown]
          exact ⟨hyears.1, by decide, hyears.2.2.1, hyears.2.2.2.inJanuary⟩
    cases hunknown : isUnknown day.toList with
    | false => rwa [← hday.toList_eq hunknown]
    | true =>
        rw [filled_of_isUnknown hunknown]
        exact ⟨hmonths.1, hmonths.2.1, by decide, hmonths.2.2.2.first⟩
  · intro hnames
    refine ⟨_, _, _, isSome_composeDate?_iff.2 ?_, completes_filled "2000" year,
      completes_filled "1" month, completes_filled "1" day⟩
    simpa only [String.toList_ofList] using hnames

theorem isOneOrTwoDigits_digits {n : Nat} (h : n < 100) : isOneOrTwoDigits (digits n) = true := by
  rw [isOneOrTwoDigits_iff_length_le]
  exact ⟨Decimal.isDigits_digits n, Decimal.length_digits_le h⟩

theorem isNumeral_filled_iff {year : String} :
    (!(!isUnknown year.toList) || (year.toList.length == 4 && isDigits year.toList)) = true ↔
      IsNumeral 4 (filled "2000" year.toList) := by
  cases hunknown : isUnknown year.toList with
  | false => simp [filled_of_known hunknown, isNumeral_iff]
  | true =>
      rw [filled_of_isUnknown hunknown]
      exact iff_of_true rfl (by decide)

/-- Whether a known month and a known day are a day is asked of the year or, if that is unknown, of
the year 2000. -/
theorem isDay_filled_iff {year : String} (hyear : IsNumeral 4 (filled "2000" year.toList))
    {m d : Nat} (hm : m < 100) (hd : d < 100) :
    (if !isUnknown year.toList then
        (composeDate? year (Decimal.natText m) (Decimal.natText d)).isSome
      else isDayOfSomeYear m d) = true ↔
      IsDay (digitsValue (filled "2000" year.toList)) m d := by
  cases hunknown : isUnknown year.toList with
  | false =>
      rw [filled_of_known hunknown] at hyear ⊢
      rw [if_pos (by rfl), isSome_composeDate?_iff, NamesDay, Decimal.natText, Decimal.natText,
        String.toList_ofList, String.toList_ofList, Decimal.digitsValue_digits,
        Decimal.digitsValue_digits]
      exact ⟨fun h => h.2.2.2,
        fun h => ⟨hyear, isOneOrTwoDigits_digits hm, isOneOrTwoDigits_digits hd, h⟩⟩
  | true =>
      rw [filled_of_isUnknown hunknown, if_neg (by decide), isDayOfSomeYear, Date.ofNumbers?]
      change _ ↔ IsDay 2000 m d
      split <;> simp [*]

/-- Components fit together if they name a day once the unknown ones are filled in. -/
theorem isPartialDate_iff_namesDay {year month day : String} :
    isPartialDate year month day = true ↔
      NamesDay (filled "2000" year.toList) (filled "1" (withoutPlus month.toList))
        (filled "1" (withoutPlus day.toList)) := by
  simp only [isPartialDate, Bool.and_eq_true, isNumeral_filled_iff]
  -- What the code finds for a month or a day is a number, none for an unknown one, or a refusal.
  cases hmonth : isUnknown month.toList with
  | true =>
      rw [filled_of_isUnknown ((isUnknown_withoutPlus _).trans hmonth)]
      cases hday : isUnknown day.toList with
      | true =>
          rw [filled_of_isUnknown ((isUnknown_withoutPlus _).trans hday), namesDay_first_iff]
          exact and_iff_left rfl
      | false =>
          rw [filled_of_known ((isUnknown_withoutPlus _).trans hday), namesDay_first_month_iff]
          cases knownNumber? 31 day.toList <;> simp
  | false =>
      rw [filled_of_known ((isUnknown_withoutPlus _).trans hmonth)]
      cases hday : isUnknown day.toList with
      | true =>
          rw [filled_of_isUnknown ((isUnknown_withoutPlus _).trans hday), namesDay_first_day_iff]
          cases knownNumber? 12 month.toList <;> simp
      | false =>
          rw [filled_of_known ((isUnknown_withoutPlus _).trans hday), namesDay_known_iff]
          refine and_congr_right fun hyear => ?_
          cases hfoundMonth : knownNumber? 12 month.toList with
          | none => simp
          | some m =>
              cases hfoundDay : knownNumber? 31 day.toList with
              | none => simp
              | some d =>
                  obtain ⟨-, -, -, hm⟩ := (knownNumber?_eq_some_iff (by decide)).1 hfoundMonth
                  obtain ⟨-, -, -, hd⟩ := (knownNumber?_eq_some_iff (by decide)).1 hfoundDay
                  simpa using isDay_filled_iff hyear (by omega : m < 100) (by omega : d < 100)

/-- A date that is known in part fits together exactly if it can be completed, where a plus sign in
front of the only digit of a month or a day is left out.  Without such a sign it can be completed as
it is, and if all of it is known, it is a date. -/
theorem isPartialDate_iff_isCompletable (year month day : String) :
    (isPartialDate year month day = true ↔
      IsCompletable year (String.ofList (withoutPlus month.toList))
        (String.ofList (withoutPlus day.toList))) ∧
    (hasPlus month.toList = false → hasPlus day.toList = false →
      (isPartialDate year month day = true ↔ IsCompletable year month day) ∧
      (isUnknown year.toList = false → isUnknown month.toList = false →
        isUnknown day.toList = false →
        isPartialDate year month day = (composeDate? year month day).isSome)) := by
  have hcompletable : isPartialDate year month day = true ↔
      IsCompletable year (String.ofList (withoutPlus month.toList))
        (String.ofList (withoutPlus day.toList)) := by
    rw [isPartialDate_iff_namesDay, isCompletable_iff, String.toList_ofList, String.toList_ofList]
  refine ⟨hcompletable, fun hmonth hday => ?_⟩
  rw [withoutPlus_of_not_hasPlus hmonth, withoutPlus_of_not_hasPlus hday, String.ofList_toList,
    String.ofList_toList] at hcompletable
  refine ⟨hcompletable, fun hyearKnown hmonthKnown hdayKnown => ?_⟩
  rw [Bool.eq_iff_iff, hcompletable, isCompletable_iff, isSome_composeDate?_iff,
    filled_of_known hyearKnown, filled_of_known hmonthKnown, filled_of_known hdayKnown]

/-- 29 February of an unknown year can be completed, and that of 1855 is no date. -/
theorem isPartialDate_iff_isCompletable_of_leap_day :
    IsCompletable "????" "2" "29" ∧ isPartialDate "1855" "2" "29" = false := by
  have hunknown := (isPartialDate_iff_isCompletable "????" "2" "29").2 (by decide) (by decide)
  have hknown := (isPartialDate_iff_isCompletable "1855" "2" "29").2 (by decide) (by decide)
  refine ⟨hunknown.1.1 (by decide +kernel), ?_⟩
  rw [hknown.2 (by decide) (by decide) (by decide)]
  decide +kernel

/-- The month `+1` is known and is no month of a date, so with it no date can be completed, but it
is taken for January. -/
theorem isPartialDate_of_plus :
    isPartialDate "2020" "+1" "*" = true ∧ ¬IsCompletable "2020" "+1" "*" := by
  rw [isCompletable_iff, NamesDay]
  decide +kernel

end Completion

end CsvSchema.Calendar
