import CsvSchema.Calendar.Lexical
import CsvSchema.Proofs.Decimal.Digits

/-!
# Dates and times and their texts

Different dates have different texts, `Date.text_injective`, and so have different times that a
clock shows, `Time.text_injective`.  Every time that is read is one: a leap second is the last
second of its minute, also after it has been moved by an offset, since offsets are whole minutes.
-/

namespace CsvSchema.Calendar

open Decimal (digitsValue isDigit isDigits paddedDigits)

/-- A character that dates and times are written with. -/
def IsMark (c : Char) : Prop := isDigit c = true ∨ c ∈ ['-', '+', ':', '.']

theorem isMark_of_mem_paddedDigits {width n : Nat} : ∀ c ∈ paddedDigits width n, IsMark c :=
  fun c hc => .inl (Decimal.isDigit_of_mem_paddedDigits c hc)

section Dates

theorem daysInMonth_le_thirty_one (year : Int) (month : Nat) : daysInMonth year month ≤ 31 := by
  unfold daysInMonth
  split <;> first | decide | (split <;> decide)

theorem IsDay.day_le {year : Int} {month day : Nat} (h : IsDay year month day) : day ≤ 31 :=
  Nat.le_trans h.2.2.2 (daysInMonth_le_thirty_one year month)

namespace Date

/-- The digits of a year and the sign before them, if there is one. -/
theorem exists_yearText_eq (year : Int) : ∃ sign width,
    yearText year = sign ++ paddedDigits width year.natAbs ∧
      (sign = [] ∧ 0 ≤ year ∨ sign = ['-'] ∧ year < 0 ∨ sign = ['+'] ∧ 0 ≤ year) := by
  unfold yearText
  split
  · rename_i hplain
    simp only [Bool.and_eq_true, decide_eq_true_eq] at hplain
    have habs : year.toNat = year.natAbs := by omega
    exact ⟨[], 4, by rw [habs, List.nil_append], .inl ⟨rfl, hplain.1⟩⟩
  · split
    · rename_i hnegative
      exact ⟨['-'], 4, rfl, .inr (.inl ⟨rfl, hnegative⟩)⟩
    · rename_i hnegative
      exact ⟨['+'], 4, rfl, .inr (.inr ⟨rfl, by omega⟩)⟩

theorem yearText_injective {year₁ year₂ : Int} (h : yearText year₁ = yearText year₂) :
    year₁ = year₂ := by
  obtain ⟨sign₁, width₁, htext₁, hsign₁⟩ := exists_yearText_eq year₁
  obtain ⟨sign₂, width₂, htext₂, hsign₂⟩ := exists_yearText_eq year₂
  rw [htext₁, htext₂] at h
  have hvalue : ∀ {width₁ width₂ n₁ n₂ : Nat}, paddedDigits width₁ n₁ = paddedDigits width₂ n₂ →
      n₁ = n₂ := by
    intro width₁ width₂ n₁ n₂ hdigits
    rw [← Decimal.digitsValue_paddedDigits width₁ n₁, hdigits, Decimal.digitsValue_paddedDigits]
  -- A sign is not a digit, so a year with a sign is not taken for one without.
  have hsigned : ∀ {sign : Char} {rest : List Char} {width n : Nat}, isDigit sign = false →
      sign :: rest ≠ paddedDigits width n := by
    intro sign rest width n hsign heq
    have hmem : sign ∈ sign :: rest := List.mem_cons_self
    rw [heq] at hmem
    have hdigit := Decimal.isDigit_of_mem_paddedDigits sign hmem
    rw [hsign] at hdigit
    cases hdigit
  rcases hsign₁ with ⟨rfl, hpos₁⟩ | ⟨rfl, hneg₁⟩ | ⟨rfl, hpos₁⟩ <;>
    rcases hsign₂ with ⟨rfl, hpos₂⟩ | ⟨rfl, hneg₂⟩ | ⟨rfl, hpos₂⟩
  · have habs := hvalue h
    omega
  · exact absurd h.symm (hsigned (by decide))
  · exact absurd h.symm (hsigned (by decide))
  · exact absurd h (hsigned (by decide))
  · have habs := hvalue (List.cons.inj h).2
    omega
  · cases (List.cons.inj h).1
  · exact absurd h (hsigned (by decide))
  · cases (List.cons.inj h).1
  · have habs := hvalue (List.cons.inj h).2
    omega

theorem day_lt (date : Date) : date.day < 100 := Nat.lt_of_le_of_lt date.isDay.day_le (by decide)

theorem chars_injective {date₁ date₂ : Date} (h : date₁.chars = date₂.chars) : date₁ = date₂ := by
  have hchars : ∀ date : Date, date.chars = ((yearText date.year ++ ['-']) ++
      paddedDigits 2 date.month ++ ['-']) ++ paddedDigits 2 date.day := by
    intro date
    simp only [chars, List.append_assoc, List.cons_append, List.nil_append]
  have hmonth : ∀ date : Date, date.month < 100 :=
    fun date => Nat.lt_of_le_of_lt date.isDay.2.1 (by decide)
  rw [hchars, hchars] at h
  obtain ⟨hbefore, hday⟩ := Decimal.eq_of_append_paddedDigits date₁.day_lt date₂.day_lt h
  obtain ⟨hyear, hmonths⟩ := Decimal.eq_of_append_paddedDigits (hmonth date₁) (hmonth date₂)
    (List.append_cancel_right hbefore)
  have hyears := yearText_injective (List.append_cancel_right hyear)
  obtain ⟨year₁, month₁, day₁, _⟩ := date₁
  obtain ⟨year₂, month₂, day₂, _⟩ := date₂
  simp only at hyears hmonths hday
  subst hyears hmonths hday
  rfl

/-- Different dates have different texts. -/
theorem text_injective {date₁ date₂ : Date} (h : date₁.text = date₂.text) : date₁ = date₂ :=
  chars_injective (String.ofList_injective h)

theorem isMark_of_mem_text {date : Date} : ∀ c ∈ date.text.toList, IsMark c := by
  obtain ⟨sign, width, hyear, hsign⟩ := exists_yearText_eq date.year
  simp only [text, String.toList_ofList, chars, hyear, List.forall_mem_append,
    List.forall_mem_cons]
  refine ⟨⟨⟨?_, isMark_of_mem_paddedDigits⟩, .inr (by decide), isMark_of_mem_paddedDigits⟩,
    .inr (by decide), isMark_of_mem_paddedDigits⟩
  intro c hc
  rcases hsign with ⟨rfl, -⟩ | ⟨rfl, -⟩ | ⟨rfl, -⟩
  · cases hc
  · rw [List.mem_singleton.1 hc]
    exact .inr (by decide)
  · rw [List.mem_singleton.1 hc]
    exact .inr (by decide)

theorem text_ne_nil (date : Date) : date.text.toList ≠ [] := by
  rw [text, String.toList_ofList, chars]
  exact List.append_ne_nil_of_right_ne_nil _ (List.cons_ne_nil _ _)

end Date

end Dates

section Times

namespace Time

/-- A time that a clock shows: only the last second of a minute can be a leap second. -/
def IsClock (time : Time) : Prop := nanosPerSecond ≤ time.nano → time.second % 60 = 59

theorem isClock_of_ofClock? {hour minute second nano : Nat} {time : Time}
    (h : ofClock? hour minute second nano = some time) : time.IsClock := by
  unfold ofClock? at h
  split at h
  · rename_i hrange
    split at h
    · rw [← Option.some.inj h]
      intro _
      simp only
      omega
    · rw [← Option.some.inj h]
      intro hleap
      exact absurd hleap (Nat.not_le.2 hrange.2.2.2)
  · cases h

/-- The second of the minute that a clock shows. -/
def shownSecond (time : Time) : Nat :=
  if nanosPerSecond ≤ time.nano then time.second % 60 + 1 else time.second % 60

/-- The nanoseconds of the second that a clock shows. -/
def shownNano (time : Time) : Nat :=
  if nanosPerSecond ≤ time.nano then time.nano - nanosPerSecond else time.nano

theorem shownNano_lt (time : Time) : time.shownNano < nanosPerSecond := by
  have hnano := time.nano_lt
  unfold shownNano
  split <;> omega

theorem chars_eq (time : Time) :
    time.chars = paddedDigits 2 (time.second / 3600) ++ (':' ::
      (paddedDigits 2 (time.second / 60 % 60) ++ (':' ::
        (paddedDigits 2 time.shownSecond ++ fractionText time.shownNano)))) := by
  simp only [chars, shownSecond, shownNano, List.append_assoc, List.cons_append]

/-- Reading the fraction of a second that is written gives the nanoseconds. -/
theorem readFraction?_fractionText {nano : Nat} (h : nano < nanosPerSecond) :
    readFraction? (fractionText nano) = some nano := by
  have hread : ∀ {width n : Nat}, n < 10 ^ (width + 1) → width + 1 ≤ 9 →
      readFraction? ('.' :: paddedDigits (width + 1) n) = some (n * 10 ^ (9 - (width + 1))) := by
    intro width n hn hwidth
    have hlength := Decimal.length_paddedDigits hn
    have hdigits : isDigits (paddedDigits (width + 1) n) = true :=
      Decimal.isDigits_iff.2
        ⟨Decimal.paddedDigits_ne_nil _ _, Decimal.isDigit_of_mem_paddedDigits⟩
    rw [readFraction?, if_pos hdigits, fractionNanos, List.take_of_length_le (by omega),
      Decimal.digitsValue_paddedDigits, hlength, Nat.pow_eq]
  unfold nanosPerSecond at h
  unfold fractionText
  -- Three, six or nine places, whichever are enough; the reader fills them up to nine.
  split
  · rename_i hzero
    rw [hzero]
    rfl
  · split
    · rw [hread (by omega) (by omega)]
      exact congrArg some (by omega)
    · split
      · rw [hread (by omega) (by omega)]
        exact congrArg some (by omega)
      · rw [hread (by omega) (by omega)]
        exact congrArg some (by omega)

/-- Second 60 is shown for a leap second and for nothing else. -/
theorem eq_of_shown_eq {time₁ time₂ : Time} (h₁ : time₁.IsClock) (h₂ : time₂.IsClock)
    (hseconds : time₁.shownSecond = time₂.shownSecond)
    (hnanos : time₁.shownNano = time₂.shownNano) :
    time₁.second % 60 = time₂.second % 60 ∧ time₁.nano = time₂.nano := by
  unfold IsClock at h₁ h₂
  unfold shownSecond at hseconds
  unfold shownNano at hnanos
  by_cases hleap₁ : nanosPerSecond ≤ time₁.nano
  · have hlast₁ := h₁ hleap₁
    by_cases hleap₂ : nanosPerSecond ≤ time₂.nano
    · rw [if_pos hleap₁, if_pos hleap₂] at hseconds hnanos
      omega
    · rw [if_pos hleap₁, if_neg hleap₂] at hseconds
      omega
  · by_cases hleap₂ : nanosPerSecond ≤ time₂.nano
    · have hlast₂ := h₂ hleap₂
      rw [if_neg hleap₁, if_pos hleap₂] at hseconds
      omega
    · rw [if_neg hleap₁, if_neg hleap₂] at hseconds hnanos
      exact ⟨hseconds, hnanos⟩

theorem chars_injective {time₁ time₂ : Time} (h₁ : time₁.IsClock) (h₂ : time₂.IsClock)
    (h : time₁.chars = time₂.chars) : time₁ = time₂ := by
  have hshown : ∀ time : Time, time.shownSecond < 100 := by
    intro time
    unfold shownSecond
    split <;> omega
  have hhour : ∀ time : Time, time.second / 3600 < 100 := by
    intro time
    have hsecond := time.second_lt
    unfold secondsPerDay at hsecond
    omega
  rw [chars_eq, chars_eq] at h
  obtain ⟨hhours, hrest⟩ := Decimal.eq_of_paddedDigits_append (hhour time₁) (hhour time₂) h
  obtain ⟨hminutes, hrest⟩ := Decimal.eq_of_paddedDigits_append (by omega) (by omega)
    (List.cons.inj hrest).2
  obtain ⟨hseconds, hfractions⟩ := Decimal.eq_of_paddedDigits_append (hshown time₁) (hshown time₂)
    (List.cons.inj hrest).2
  have hnanos : time₁.shownNano = time₂.shownNano := by
    have hread := readFraction?_fractionText time₁.shownNano_lt
    rw [hfractions, readFraction?_fractionText time₂.shownNano_lt] at hread
    exact (Option.some.inj hread).symm
  have hsame := eq_of_shown_eq h₁ h₂ hseconds hnanos
  have hsecond : time₁.second = time₂.second := by omega
  obtain ⟨second₁, nano₁, _, _⟩ := time₁
  obtain ⟨second₂, nano₂, _, _⟩ := time₂
  simp only at hsecond hsame
  obtain rfl := hsecond
  obtain rfl := hsame.2
  rfl

/-- Different times that a clock shows have different texts. -/
theorem text_injective {time₁ time₂ : Time} (h₁ : time₁.IsClock) (h₂ : time₂.IsClock)
    (h : time₁.text = time₂.text) : time₁ = time₂ :=
  chars_injective h₁ h₂ (String.ofList_injective h)

theorem isMark_of_mem_text {time : Time} : ∀ c ∈ time.text.toList, IsMark c := by
  have hfraction : ∀ nano, ∀ c ∈ fractionText nano, IsMark c := by
    intro nano
    have hpoint : ∀ {width n : Nat}, ∀ c ∈ '.' :: paddedDigits width n, IsMark c :=
      List.forall_mem_cons.2 ⟨.inr (by decide), isMark_of_mem_paddedDigits⟩
    unfold fractionText
    split
    · simp
    · split
      · exact hpoint
      · split
        · exact hpoint
        · exact hpoint
  simp only [text, String.toList_ofList, chars_eq, List.forall_mem_append, List.forall_mem_cons]
  exact ⟨isMark_of_mem_paddedDigits, .inr (by decide), isMark_of_mem_paddedDigits,
    .inr (by decide), isMark_of_mem_paddedDigits, hfraction _⟩

theorem text_ne_nil (time : Time) : time.text.toList ≠ [] := by
  rw [text, String.toList_ofList, chars_eq]
  exact List.append_ne_nil_of_left_ne_nil (Decimal.paddedDigits_ne_nil _ _) _

end Time

end Times

section Reading

theorem isClock_of_readTime? {s : List Char} {time : Time} (h : readTime? s = some time) :
    time.IsClock := by
  unfold readTime? at h
  split at h
  · split at h
    · obtain ⟨nano, -, hclock⟩ := Option.bind_eq_some_iff.1 h
      exact Time.isClock_of_ofClock? hclock
    · cases h
  · cases h

theorem isClock_of_readLocal? {s : List Char} {instant : DateTime}
    (h : readLocal? s = some instant) : instant.time.IsClock := by
  simp only [readLocal?, Option.bind_eq_some_iff, Option.map_eq_some_iff] at h
  obtain ⟨parts, -, date, -, time, htime, rfl⟩ := h
  exact isClock_of_readTime? htime

/-- An offset is a whole number of minutes. -/
theorem dvd_of_splitZone {s body : List Char} {offset : Int}
    (h : splitZone s = (body, some offset)) : 60 ∣ offset := by
  have hzone : ∀ {sign : Char} {hours minutes offset : Int},
      zoneOffset? sign hours minutes = some offset → 60 ∣ offset := by
    intro sign hours minutes offset hoffset
    simp only [zoneOffset?, Option.ite_none_left_eq_some, Option.some.injEq] at hoffset
    obtain ⟨-, rfl⟩ := hoffset
    split <;> omega
  unfold splitZone at h
  split at h
  · rename_i before offset' hfound
    obtain ⟨-, hsame⟩ := Prod.mk.inj h
    obtain rfl := Option.some.inj hsame
    unfold zoneFromEnd? at hfound
    split at hfound
    · cases hfound
      exact Int.dvd_zero 60
    · simp only [Option.ite_none_right_eq_some, Option.bind_eq_some_iff,
        Option.map_eq_some_iff] at hfound
      obtain ⟨-, hours, -, minutes, -, found, hfound, heq⟩ := hfound
      rw [← (Prod.mk.inj heq).2]
      exact hzone hfound
    · cases hfound
  · cases (Prod.mk.inj h).2

/-- A move by whole minutes keeps the second of the minute. -/
theorem isClock_minusSeconds {instant : DateTime} (h : instant.time.IsClock) {offset : Int}
    (hoffset : 60 ∣ offset) : (instant.minusSeconds offset).time.IsClock := by
  intro hleap
  have hlast := h hleap
  simp only [DateTime.minusSeconds, secondsPerDay]
  omega

theorem isClock_of_readDateTime? {s : String} {instant : DateTime}
    (h : readDateTime? s = some instant) : instant.time.IsClock := by
  unfold readDateTime? at h
  cases hsplit : splitZone s.toList with
  | mk body offset =>
      simp only [hsplit, Option.map_eq_some_iff] at h
      obtain ⟨found, hfound, rfl⟩ := h
      refine isClock_minusSeconds (isClock_of_readLocal? hfound) ?_
      cases offset with
      | none => exact Int.dvd_zero 60
      | some offset => exact dvd_of_splitZone hsplit

theorem isClock_of_readZonedDateTime? {s : String} {instant : DateTime}
    (h : readZonedDateTime? s = some instant) : instant.time.IsClock := by
  unfold readZonedDateTime? at h
  split at h
  · rename_i body offset hsplit
    obtain ⟨found, hfound, rfl⟩ := Option.map_eq_some_iff.1 h
    exact isClock_minusSeconds (isClock_of_readLocal? hfound) (dvd_of_splitZone hsplit)
  · cases h

theorem isClock_of_readXsdTime? {s : String} {time : Time} (h : readXsdTime? s = some time) :
    time.IsClock :=
  isClock_of_readTime? h

end Reading

end CsvSchema.Calendar
