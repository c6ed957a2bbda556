import CsvSchema.Proofs.Calendar.Zones

/-!
# Dates from their components

A year, a month and a day that stand in texts of their own name a date if each is written in digits,
the year in four and the others in one or two.  With two digits for the month and the day this is
the date that is read from the three of them with hyphens between them, and from the three of them
the other way round with slashes between them, `readers_agree`.
-/

namespace CsvSchema.Calendar

open Decimal (isDigit isDigits digitsValue)

theorem isNumeral_iff {width : Nat} {s : List Char} (hwidth : width ≠ 0) :
    IsNumeral width s ↔ s.length = width ∧ isDigits s = true := by
  rw [IsNumeral, Decimal.isDigits_iff]
  constructor
  · rintro ⟨rfl, hdigits⟩
    exact ⟨rfl, List.length_pos_iff.1 (Nat.pos_of_ne_zero hwidth), hdigits⟩
  · rintro ⟨hlength, -, hdigits⟩
    exact ⟨hlength, hdigits⟩

theorem composeDate?_eq_some_iff {year month day : String} {date : Date} :
    composeDate? year month day = some date ↔
      IsNumeral 4 year.toList ∧ isOneOrTwoDigits month.toList = true ∧
        isOneOrTwoDigits day.toList = true ∧
        date.Has (digitsValue year.toList) (digitsValue month.toList) (digitsValue day.toList) := by
  rw [isNumeral_iff (by decide)]
  simp only [composeDate?, Option.ite_none_right_eq_some, Bool.and_eq_true, beq_iff_eq,
    Date.ofNumbers?_eq_some_iff, and_assoc]

section TwoBytes

/-- Digits are as many bytes as they are characters. -/
theorem utf8ByteSize_of_digits {s : List Char} (h : ∀ c ∈ s, isDigit c = true) :
    (String.ofList s).utf8ByteSize = s.length := by
  induction s with
  | nil => rfl
  | cons c s ih =>
      obtain ⟨hc, hs⟩ := List.forall_mem_cons.1 h
      have hascii : c.utf8Size = 1 := by
        simp only [isDigit, Bool.and_eq_true, decide_eq_true_eq] at hc
        exact if_pos (Char.le_trans hc.2 (by decide : '9' ≤ Char.ofNat 127))
      rw [String.ofList_cons, String.utf8ByteSize_append, String.utf8ByteSize_singleton, hascii,
        ih hs, List.length_cons, Nat.add_comm]

/-- Of the texts of two bytes, one or two digits are two digits. -/
theorem isOneOrTwoDigits_iff {part : String} (h : part.utf8ByteSize = 2) :
    isOneOrTwoDigits part.toList = true ↔ IsNumeral 2 part.toList := by
  rw [isNumeral_iff (by decide)]
  simp only [isOneOrTwoDigits, Bool.and_eq_true, Bool.or_eq_true, beq_iff_eq]
  refine and_congr_left fun hdigits => ⟨fun _ => ?_, .inr⟩
  rw [← utf8ByteSize_of_digits (Decimal.isDigits_iff.1 hdigits).2, String.ofList_toList, h]

end TwoBytes

section Agreement

variable {year month day : List Char} {date : Date}

theorem readUkDate?_eq_some_iff (hyear : '/' ∉ year) (hmonth : '/' ∉ month) (hday : '/' ∉ day) :
    readUkDate? (String.ofList (day ++ '/' :: (month ++ '/' :: year))) = some date ↔
      IsNumeral 4 year ∧ IsNumeral 2 month ∧ IsNumeral 2 day ∧
        date.Has (digitsValue year) (digitsValue month) (digitsValue day) := by
  have hwhole : ∀ {s : List Char}, '/' ∉ s → Text.splitWhere (· == '/') s = [s] := fun hs =>
    Text.splitWhere_of_forall_not fun c hc => beq_eq_false_iff_ne.2 (ne_of_mem_of_not_mem hc hs)
  have hsplit : Text.splitOn '/' (day ++ '/' :: (month ++ '/' :: year)) = [day, month, year] := by
    rw [Text.splitOn, Text.splitWhere_append (by rfl), Text.splitWhere_append (by rfl),
      hwhole hday, hwhole hmonth, hwhole hyear]
    rfl
  rw [readUkDate?, String.toList_ofList, hsplit]
  simp only [Option.ite_none_right_eq_some, Bool.and_eq_true, beq_iff_eq,
    Date.ofNumbers?_eq_some_iff, isNumeral_iff (by decide : 4 ≠ 0),
    isNumeral_iff (by decide : 2 ≠ 0)]
  tauto

/-- Between hyphens in front of two bytes, a date is read without a zone. -/
theorem readXsdDate?_components (hyear : '-' ∉ year) (hmonth : '-' ∉ month)
    (hday : (String.ofList day).utf8ByteSize = 2) :
    readXsdDate? (String.ofList (year ++ '-' :: (month ++ '-' :: day))) = some date ↔
      IsNumeral 4 year ∧ IsNumeral 2 month ∧ IsNumeral 2 day ∧
        date.Has (digitsValue year) (digitsValue month) (digitsValue day) := by
  have hdigits : ∀ {s : List Char}, (∀ c ∈ s, isDigit c = true) → '-' ∉ s := fun hs hmem =>
    absurd (hs '-' hmem) (by decide)
  rw [readXsdDate?_eq_some_iff, String.toList_ofList]
  constructor
  · rintro ⟨body, zone, hs, ⟨year', month', day', rfl, hy, hm, hd, hdate⟩, -⟩
    rw [List.append_assoc, List.cons_append, List.append_assoc, List.cons_append] at hs
    obtain ⟨rfl, hrest⟩ := Text.eq_of_first hs hyear (hdigits hy.2)
    obtain ⟨rfl, rfl⟩ := Text.eq_of_first hrest hmonth (hdigits hm.2)
    -- The two digits of the day are all of the two bytes, so nothing is left for a zone.
    have hzone : zone = [] := by
      rw [String.ofList_append, String.utf8ByteSize_append, utf8ByteSize_of_digits hd.2,
        hd.1] at hday
      have hempty : (String.ofList zone).utf8ByteSize = 0 := by omega
      rw [String.utf8ByteSize_eq_zero_iff] at hempty
      exact String.ofList_injective hempty
    rw [hzone, List.append_nil]
    exact ⟨hy, hm, hd, hdate⟩
  · rintro ⟨hy, hm, hd, hdate⟩
    exact ⟨_, [], (List.append_nil _).symm, ⟨year, month, day, rfl, hy, hm, hd, hdate⟩, .inl rfl⟩

end Agreement

/-- A date is the same from its components, with slashes between them and with hyphens between
them. -/
theorem readers_agree (year month day : String) (hmonth : month.utf8ByteSize = 2)
    (hday : day.utf8ByteSize = 2)
    (hparts : ∀ part ∈ [year, month, day], '/' ∉ part.toList ∧ '-' ∉ part.toList) :
    readUkDate? (day ++ "/" ++ month ++ "/" ++ year) = composeDate? year month day ∧
      readXsdDate? (year ++ "-" ++ month ++ "-" ++ day) = composeDate? year month day := by
  simp only [List.forall_mem_cons, List.not_mem_nil, false_implies, implies_true,
    and_true] at hparts
  obtain ⟨⟨hyslash, hyhyphen⟩, ⟨hmslash, hmhyphen⟩, hdslash, -⟩ := hparts
  have huk : day ++ "/" ++ month ++ "/" ++ year =
      String.ofList (day.toList ++ '/' :: (month.toList ++ '/' :: year.toList)) :=
    String.toList_injective (by simp)
  have hxsd : year ++ "-" ++ month ++ "-" ++ day =
      String.ofList (year.toList ++ '-' :: (month.toList ++ '-' :: day.toList)) :=
    String.toList_injective (by simp)
  refine ⟨Option.ext fun date => ?_, Option.ext fun date => ?_⟩
  · rw [huk, readUkDate?_eq_some_iff hyslash hmslash hdslash, composeDate?_eq_some_iff,
      isOneOrTwoDigits_iff hmonth, isOneOrTwoDigits_iff hday]
  · rw [hxsd, readXsdDate?_components hyhyphen hmhyphen (by rwa [String.ofList_toList]),
      composeDate?_eq_some_iff, isOneOrTwoDigits_iff hmonth, isOneOrTwoDigits_iff hday]

/-- The last day of a February that has 29, and the day after it, which is none. -/
theorem readers_agree_on_leap_day :
    readUkDate? "29/02/2000" = composeDate? "2000" "02" "29" ∧
      readXsdDate? "2000-02-29" = composeDate? "2000" "02" "29" ∧
      (composeDate? "2000" "02" "29").isSome = true ∧
      readUkDate? "30/02/2000" = none ∧ readXsdDate? "2000-02-30" = none := by
  have hleap := readers_agree "2000" "02" "29" (by decide) (by decide) (by decide)
  have hnone := readers_agree "2000" "02" "30" (by decide) (by decide) (by decide)
  have habsent : composeDate? "2000" "02" "30" = none := by decide
  exact ⟨hleap.1, hleap.2, by decide, hnone.1.trans habsent, hnone.2.trans habsent⟩

end CsvSchema.Calendar
