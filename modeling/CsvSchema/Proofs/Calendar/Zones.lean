import CsvSchema.Proofs.Calendar.Forms

/-!
# Zones and what is read before them

A zone is the letter Z or an offset of a sign, two digits, a colon and two digits.  The readers take
some more texts for a zone, in which a number is a sign and one digit.  A text of one of the forms
does not end in a zone, so each reader accepts the texts of its form and those with a zone behind
them, `isSome_read_iff`.
-/

namespace CsvSchema.Calendar

open Decimal (isDigit digitsValue digitValue)

section Numbers

/-- Two digits. -/
def WritesDigits (s : List Char) (n : Int) : Prop := IsNumeral 2 s ∧ n = digitsValue s

/-- A sign and one digit. -/
def WritesSigned (s : List Char) (n : Int) : Prop :=
  ∃ digit, isDigit digit = true ∧
    (s = ['+', digit] ∧ n = digitValue digit ∨ s = ['-', digit] ∧ n = -(digitValue digit : Int))

/-- A number of two places, as it is read in a zone. -/
def WritesPlaces (s : List Char) (n : Int) : Prop := WritesDigits s n ∨ WritesSigned s n

theorem zoneNumber?_eq_some_iff {a b : Char} {n : Int} :
    zoneNumber? a b = some n ↔ WritesPlaces [a, b] n := by
  unfold zoneNumber?
  constructor
  · intro h
    split at h
    · rename_i hb
      split at h
      · rename_i ha
        refine .inl ⟨isNumeral_two_iff.2 ⟨a, b, rfl, ha, hb⟩, ?_⟩
        rw [← Option.some.inj h, digitsValue_pair]
        omega
      · split at h
        · rename_i hplus
          exact .inr ⟨b, hb, .inl ⟨by rw [beq_iff_eq.1 hplus], (Option.some.inj h).symm⟩⟩
        · split at h
          · rename_i hminus
            exact .inr ⟨b, hb, .inr ⟨by rw [beq_iff_eq.1 hminus], (Option.some.inj h).symm⟩⟩
          · cases h
    · cases h
  · rintro (⟨hnumeral, rfl⟩ | ⟨digit, hdigit, ⟨hs, rfl⟩ | ⟨hs, rfl⟩⟩)
    · obtain ⟨a, b, hs, ha, hb⟩ := isNumeral_two_iff.1 hnumeral
      cases hs
      rw [if_pos hb, if_pos ha, digitsValue_pair]
      exact congrArg some (by omega)
    · cases hs
      rw [if_pos hdigit]
      rfl
    · cases hs
      rw [if_pos hdigit]
      rfl

theorem WritesPlaces.exists_pair {s : List Char} {n : Int} (h : WritesPlaces s n) :
    ∃ a b, s = [a, b] ∧ isDigit b = true := by
  rcases h with ⟨hnumeral, -⟩ | ⟨digit, hdigit, ⟨rfl, -⟩ | ⟨rfl, -⟩⟩
  · obtain ⟨a, b, rfl, -, hb⟩ := isNumeral_two_iff.1 hnumeral
    exact ⟨a, b, rfl, hb⟩
  · exact ⟨_, _, rfl, hdigit⟩
  · exact ⟨_, _, rfl, hdigit⟩

end Numbers

section Zones

/-- An offset in seconds east: a sign, hours, a colon and minutes, where the hours and the minutes
are numbers of some form. -/
def WritesOffset (hoursForm minutesForm : List Char → Int → Prop) (zone : List Char)
    (offset : Int) : Prop :=
  ∃ sign hours minutes h m, zone = sign :: (hours ++ ':' :: minutes) ∧ (sign = '+' ∨ sign = '-') ∧
    hoursForm hours h ∧ minutesForm minutes m ∧ h ≤ 14 ∧ m ≤ 59 ∧
    offset = if sign = '-' then -(h * 3600 + m * 60) else h * 3600 + m * 60

/-- A zone: the letter Z, or an offset in digits. -/
def WritesZone (zone : List Char) (offset : Int) : Prop :=
  zone = ['Z'] ∧ offset = 0 ∨ WritesOffset WritesDigits WritesDigits zone offset

/-- What is read as a zone. -/
def ReadsAsZone (zone : List Char) (offset : Int) : Prop :=
  zone = ['Z'] ∧ offset = 0 ∨ WritesOffset WritesPlaces WritesPlaces zone offset

theorem WritesOffset.mono {hours hours' minutes minutes' : List Char → Int → Prop}
    (hhours : ∀ s n, hours s n → hours' s n) (hminutes : ∀ s n, minutes s n → minutes' s n)
    {zone : List Char} {offset : Int} (h : WritesOffset hours minutes zone offset) :
    WritesOffset hours' minutes' zone offset := by
  obtain ⟨sign, hour, minute, m, n, hzone, hsign, hm, hn, hrest⟩ := h
  exact ⟨sign, hour, minute, m, n, hzone, hsign, hhours _ _ hm, hminutes _ _ hn, hrest⟩

theorem WritesZone.readsAsZone {zone : List Char} {offset : Int} (h : WritesZone zone offset) :
    ReadsAsZone zone offset :=
  h.imp_right (.mono (fun _ _ => .inl) (fun _ _ => .inl))

theorem zoneOffset?_eq_some_iff {sign : Char} {hours minutes offset : Int} :
    zoneOffset? sign hours minutes = some offset ↔ hours ≤ 14 ∧ minutes ≤ 59 ∧
      offset = if sign = '-' then -(hours * 3600 + minutes * 60)
        else hours * 3600 + minutes * 60 := by
  simp only [zoneOffset?, Bool.or_eq_true, decide_eq_true_eq, Option.ite_none_left_eq_some,
    Option.some.injEq, beq_iff_eq, not_or, Int.not_lt, and_assoc, eq_comm (a := offset)]

theorem zoneFromEnd?_eq_some_iff {s before : List Char} {offset : Int} :
    zoneFromEnd? s = some (before, offset) ↔
      ∃ zone, s = zone.reverse ++ before ∧ ReadsAsZone zone offset := by
  constructor
  · intro h
    unfold zoneFromEnd? at h
    split at h
    · cases h
      exact ⟨['Z'], rfl, .inl ⟨rfl, rfl⟩⟩
    · rename_i m₂ m₁ h₂ h₁ sign rest _
      simp only [Option.ite_none_right_eq_some, Option.bind_eq_some_iff, Option.map_eq_some_iff,
        Bool.or_eq_true, beq_iff_eq, zoneNumber?_eq_some_iff, zoneOffset?_eq_some_iff] at h
      obtain ⟨hsign, hours, hhours, minutes, hminutes, found, hfound, hparts⟩ := h
      cases hparts
      exact ⟨[sign, h₁, h₂, ':', m₁, m₂], rfl,
        .inr ⟨sign, [h₁, h₂], [m₁, m₂], hours, minutes, rfl, hsign, hhours, hminutes, hfound⟩⟩
    · cases h
  · rintro ⟨zone, rfl, ⟨rfl, rfl⟩ |
      ⟨sign, hours, minutes, h, m, rfl, hsign, hhours, hminutes, hoffset⟩⟩
    · rfl
    · obtain ⟨h₁, h₂, rfl, -⟩ := hhours.exists_pair
      obtain ⟨m₁, m₂, rfl, hm₂⟩ := hminutes.exists_pair
      -- The last character alone tells the letter from an offset, and that of an offset is a digit.
      have hletter : m₂ ≠ 'Z' := by
        rintro rfl
        exact absurd hm₂ (by decide)
      have hsigns : (sign == '+' || sign == '-') = true := by
        simpa using hsign
      rw [← zoneNumber?_eq_some_iff] at hhours hminutes
      rw [← zoneOffset?_eq_some_iff] at hoffset
      change zoneFromEnd? (m₂ :: m₁ :: ':' :: h₂ :: h₁ :: sign :: before) = _
      rw [zoneFromEnd?, if_pos hsigns, hhours, hminutes, Option.bind_some, Option.bind_some,
        hoffset]
      · rfl
      · exact hletter

theorem splitZone_append {zone : List Char} {offset : Int} (h : ReadsAsZone zone offset)
    (body : List Char) : splitZone (body ++ zone) = (body, some offset) := by
  have hfound : zoneFromEnd? (body ++ zone).reverse = some (body.reverse, offset) :=
    zoneFromEnd?_eq_some_iff.2 ⟨zone, List.reverse_append, h⟩
  rw [splitZone, hfound]
  simp

/-- A text with a zone at its end. -/
def EndsInZone (s : List Char) : Prop :=
  ∃ body zone offset, s = body ++ zone ∧ ReadsAsZone zone offset

theorem splitZone_of_not_endsInZone {s : List Char} (h : ¬EndsInZone s) :
    splitZone s = (s, none) := by
  unfold splitZone
  split
  · rename_i before offset hfound
    obtain ⟨zone, hs, hzone⟩ := zoneFromEnd?_eq_some_iff.1 hfound
    exact absurd ⟨before.reverse, zone, offset, by simpa using congrArg List.reverse hs, hzone⟩ h
  · rfl

theorem ReadsAsZone.length_le {zone : List Char} {offset : Int} (h : ReadsAsZone zone offset) :
    zone.length ≤ 6 := by
  rcases h with ⟨rfl, -⟩ | ⟨sign, hours, minutes, _, _, rfl, -, hhours, hminutes, -⟩
  · decide
  · obtain ⟨h₁, h₂, rfl, -⟩ := hhours.exists_pair
    obtain ⟨m₁, m₂, rfl, -⟩ := hminutes.exists_pair
    exact Nat.le_refl 6

theorem ReadsAsZone.mem {zone : List Char} {offset : Int} (h : ReadsAsZone zone offset) :
    'Z' ∈ zone ∨ ':' ∈ zone ∧ ('+' ∈ zone ∨ '-' ∈ zone) := by
  rcases h with ⟨rfl, -⟩ | ⟨sign, hours, minutes, _, _, rfl, hsign, -⟩
  · exact .inl List.mem_cons_self
  · refine .inr ⟨by simp, ?_⟩
    rcases hsign with rfl | rfl
    · exact .inl List.mem_cons_self
    · exact .inr List.mem_cons_self

end Zones

section Unzoned

/-- A zone lies in the last six characters. -/
theorem EndsInZone.mem {front s : List Char} (h : EndsInZone (front ++ s))
    (hlength : 6 ≤ s.length) : 'Z' ∈ s ∨ ':' ∈ s ∧ ('+' ∈ s ∨ '-' ∈ s) := by
  obtain ⟨body, zone, offset, htext, hzone⟩ := h
  have hsuffix : zone <:+ s := List.suffix_of_suffix_length_le ⟨body, htext.symm⟩
    (List.suffix_append front s) (Nat.le_trans hzone.length_le hlength)
  exact hzone.mem.imp (hsuffix.subset ·)
    (.imp (hsuffix.subset ·) (.imp (hsuffix.subset ·) (hsuffix.subset ·)))

/-- A date has neither a letter nor a colon in it. -/
theorem WritesDate.not_endsInZone {s : List Char} {date : Date} (h : WritesDate s date) :
    ¬EndsInZone s := by
  intro hends
  change EndsInZone ([] ++ s) at hends
  have hdate := isDigit_or_hyphen_of_mem_date h
  have hlength : 6 ≤ s.length := by
    rw [h.length_eq]
    decide
  rcases hends.mem hlength with hletter | ⟨hcolon, -⟩
  · exact absurd (hdate _ hletter) (by decide)
  · exact absurd (hdate _ hcolon) (by decide)

/-- A time has neither a letter nor a sign in it. -/
theorem WritesTime.not_endsInZone {s : List Char} {time : Time} (h : WritesTime s time)
    (front : List Char) : ¬EndsInZone (front ++ s) := by
  intro hends
  have htime := isDigit_or_mark_of_mem_time h
  have hlength : 6 ≤ s.length := by
    obtain ⟨hour, minute, second, fraction, nano, rfl, hhour, hminute, hsecond, -⟩ := h
    simp only [List.length_append, List.length_cons, hhour.1, hminute.1, hsecond.1]
    omega
  rcases hends.mem hlength with hletter | ⟨-, hplus | hminus⟩
  · exact absurd (htime _ hletter) (by decide)
  · exact absurd (htime _ hplus) (by decide)
  · exact absurd (htime _ hminus) (by decide)

theorem WritesLocal.not_endsInZone {s : List Char} {t : DateTime} (h : WritesLocal s t) :
    ¬EndsInZone s := by
  obtain ⟨date, time, rfl, -, htime⟩ := h
  rw [List.append_cons]
  exact htime.not_endsInZone _

end Unzoned

section Readers

variable {s : String}

/-- Where a zone is split off is known from the text before it, if that does not end in a zone. -/
theorem splitZone_eq_iff {s body : List Char} (hbody : ¬EndsInZone body) {found : Option Int} :
    splitZone s = (body, found) ↔ s = body ∧ found = none ∨
      ∃ zone offset, s = body ++ zone ∧ ReadsAsZone zone offset ∧ found = some offset := by
  constructor
  · intro hsplit
    -- How `s` was put together is not known here, so its own split is compared with the given one.
    by_cases hends : EndsInZone s
    · obtain ⟨front, zone, offset, rfl, hzone⟩ := hends
      cases (splitZone_append hzone front).symm.trans hsplit
      exact .inr ⟨zone, offset, rfl, hzone, rfl⟩
    · cases (splitZone_of_not_endsInZone hends).symm.trans hsplit
      exact .inl ⟨rfl, rfl⟩
  · rintro (⟨rfl, rfl⟩ | ⟨zone, offset, rfl, hzone, rfl⟩)
    · exact splitZone_of_not_endsInZone hbody
    · exact splitZone_append hzone body

/-- A reader that leaves the zone out reads the texts of its form, with something behind them that
is read as a zone or with nothing. -/
theorem read_splitZone_eq_some_iff {α : Type} {read : List Char → Option α}
    {Writes : List Char → α → Prop} (hread : ∀ {s x}, read s = some x ↔ Writes s x)
    (hunzoned : ∀ {s x}, Writes s x → ¬EndsInZone s) {s : List Char} {x : α} :
    read (splitZone s).1 = some x ↔
      ∃ body zone, s = body ++ zone ∧ Writes body x ∧
        (zone = [] ∨ ∃ offset, ReadsAsZone zone offset) := by
  rw [hread]
  constructor
  · intro hbody
    rcases (splitZone_eq_iff (hunzoned hbody)).1 rfl with ⟨hs, -⟩ | ⟨zone, offset, hs, hzone, -⟩
    · exact ⟨_, [], by rw [List.append_nil, ← hs], hbody, .inl rfl⟩
    · exact ⟨_, zone, hs, hbody, .inr ⟨offset, hzone⟩⟩
  · rintro ⟨body, zone, rfl, hbody, rfl | ⟨offset, hzone⟩⟩
    · rw [List.append_nil, splitZone_of_not_endsInZone (hunzoned hbody)]
      exact hbody
    · rw [splitZone_append hzone body]
      exact hbody

theorem readXsdDate?_eq_some_iff {date : Date} :
    readXsdDate? s = some date ↔ ∃ body zone, s.toList = body ++ zone ∧ WritesDate body date ∧
      (zone = [] ∨ ∃ offset, ReadsAsZone zone offset) :=
  read_splitZone_eq_some_iff readDate?_eq_some_iff WritesDate.not_endsInZone

theorem readZonedDateTime?_eq_some_iff {t : DateTime} :
    readZonedDateTime? s = some t ↔ ∃ body zone shown offset, s.toList = body ++ zone ∧
      WritesLocal body shown ∧ ReadsAsZone zone offset ∧ t = shown.minusSeconds offset := by
  unfold readZonedDateTime?
  constructor
  · intro h
    split at h
    · rename_i body offset hsplit
      obtain ⟨shown, hlocal, rfl⟩ := Option.map_eq_some_iff.1 h
      rw [readLocal?_eq_some_iff] at hlocal
      rcases (splitZone_eq_iff hlocal.not_endsInZone).1 hsplit with
        ⟨-, hnone⟩ | ⟨zone, offset', hs, hzone, hfound⟩
      · cases hnone
      · cases hfound
        exact ⟨body, zone, shown, offset, hs, hlocal, hzone, rfl⟩
    · cases h
  · rintro ⟨body, zone, shown, offset, hs, hlocal, hzone, rfl⟩
    simp only [hs, splitZone_append hzone body, readLocal?_eq_some_iff.2 hlocal, Option.map_some]

theorem readDateTime?_eq_some_iff {t : DateTime} :
    readDateTime? s = some t ↔
      (∃ shown, WritesLocal s.toList shown ∧ t = shown.minusSeconds 0) ∨
        readZonedDateTime? s = some t := by
  unfold readDateTime? readZonedDateTime?
  constructor
  · intro h
    cases hsplit : splitZone s.toList with
    | mk body found =>
        simp only [hsplit] at h
        cases found with
        | some offset => exact .inr h
        | none =>
            obtain ⟨shown, hlocal, rfl⟩ := Option.map_eq_some_iff.1 h
            rw [readLocal?_eq_some_iff] at hlocal
            rcases (splitZone_eq_iff hlocal.not_endsInZone).1 hsplit with
              ⟨rfl, -⟩ | ⟨_, _, _, _, hfound⟩
            · exact .inl ⟨shown, hlocal, rfl⟩
            · cases hfound
  · rintro (⟨shown, hlocal, rfl⟩ | h)
    · rw [splitZone_of_not_endsInZone hlocal.not_endsInZone]
      simp only [readLocal?_eq_some_iff.2 hlocal, Option.map_some, Option.getD_none]
    · split at h
      · rename_i hsplit
        rw [hsplit]
        exact h
      · cases h

end Readers

section Acceptance

/-- A text of one kind and behind it a text of another kind. -/
def Followed (front back : List Char → Prop) (s : List Char) : Prop :=
  ∃ a b, s = a ++ b ∧ front a ∧ back b

/-- A text of a kind, or nothing. -/
def Optional (kind : List Char → Prop) (s : List Char) : Prop := s = [] ∨ kind s

/-- The text of a day of the calendar. -/
def IsDateText (s : List Char) : Prop := ∃ date, WritesDate s date

/-- The text of a time of day. -/
def IsTimeText (s : List Char) : Prop := ∃ time, WritesTime s time

/-- The text of a day, the letter T and the text of a time. -/
def IsLocalText (s : List Char) : Prop := ∃ t, WritesLocal s t

/-- The letter Z, or an offset in digits. -/
def IsZone (zone : List Char) : Prop := ∃ offset, WritesZone zone offset

/-- An offset in which the hours or the minutes are a sign and one digit. -/
def IsStrayZone (zone : List Char) : Prop :=
  ∃ offset, WritesOffset WritesSigned WritesPlaces zone offset ∨
    WritesOffset WritesPlaces WritesSigned zone offset

theorem exists_readsAsZone_iff {zone : List Char} :
    (∃ offset, ReadsAsZone zone offset) ↔ IsZone zone ∨ IsStrayZone zone := by
  constructor
  · rintro ⟨offset, hletter | ⟨sign, hours, minutes, h, m, rfl, hsign, hhours, hminutes, hrest⟩⟩
    · exact .inl ⟨offset, .inl hletter⟩
    · rcases hhours with hdigits | hsigned
      · rcases hminutes with hdigits' | hsigned
        · exact .inl ⟨offset, .inr
            ⟨sign, hours, minutes, h, m, rfl, hsign, hdigits, hdigits', hrest⟩⟩
        · exact .inr ⟨offset, .inr
            ⟨sign, hours, minutes, h, m, rfl, hsign, .inl hdigits, hsigned, hrest⟩⟩
      · exact .inr ⟨offset, .inl
          ⟨sign, hours, minutes, h, m, rfl, hsign, hsigned, hminutes, hrest⟩⟩
  · rintro (⟨offset, hzone⟩ | ⟨offset, hstray | hstray⟩)
    · exact ⟨offset, hzone.readsAsZone⟩
    · exact ⟨offset, .inr (hstray.mono (fun _ _ => .inr) fun _ _ => id)⟩
    · exact ⟨offset, .inr (hstray.mono (fun _ _ => id) fun _ _ => .inr)⟩

/-- A text of a kind and behind it what is read as a zone. -/
theorem followed_readsAsZone_iff {kind : List Char → Prop} {s : List Char} :
    (∃ body zone, s = body ++ zone ∧ kind body ∧ ∃ offset, ReadsAsZone zone offset) ↔
      Followed kind IsZone s ∨ Followed kind IsStrayZone s := by
  simp only [exists_readsAsZone_iff, Followed, ← exists_or, ← and_or_left]

theorem followed_optional_iff {kind : List Char → Prop} {s : List Char} :
    Followed kind (Optional IsZone) s ↔ kind s ∨ Followed kind IsZone s := by
  simp only [Followed, Optional, and_or_left, exists_or]
  refine or_congr_left ⟨?_, fun hkind => ⟨s, [], (List.append_nil s).symm, hkind, rfl⟩⟩
  rintro ⟨body, zone, rfl, hkind, rfl⟩
  rwa [List.append_nil]

theorem isSome_read_splitZone_iff {α : Type} {read : List Char → Option α}
    {Writes : List Char → α → Prop} (hread : ∀ {s x}, read s = some x ↔ Writes s x)
    (hunzoned : ∀ {s x}, Writes s x → ¬EndsInZone s) {s : List Char} :
    (read (splitZone s).1).isSome = true ↔
      Followed (fun body => ∃ x, Writes body x) (Optional IsZone) s ∨
        Followed (fun body => ∃ x, Writes body x) IsStrayZone s := by
  rw [followed_optional_iff, or_assoc, ← followed_readsAsZone_iff, Option.isSome_iff_exists]
  simp only [read_splitZone_eq_some_iff hread hunzoned]
  constructor
  · rintro ⟨x, body, zone, rfl, hbody, rfl | hzone⟩
    · exact .inl ⟨x, by rwa [List.append_nil]⟩
    · exact .inr ⟨body, zone, rfl, ⟨x, hbody⟩, hzone⟩
  · rintro (⟨x, hbody⟩ | ⟨body, zone, rfl, ⟨x, hbody⟩, hzone⟩)
    · exact ⟨x, s, [], (List.append_nil s).symm, hbody, .inl rfl⟩
    · exact ⟨x, body, zone, rfl, hbody, .inr hzone⟩

/-- Which texts are read.  Each reader takes the texts of its form, and besides those only the ones
in which the zone has a sign and one digit for two digits. -/
theorem isSome_read_iff (s : String) :
    ((readDateTime? s).isSome = true ↔
      Followed IsLocalText (Optional IsZone) s.toList ∨
        Followed IsLocalText IsStrayZone s.toList) ∧
    ((readZonedDateTime? s).isSome = true ↔
      Followed IsLocalText IsZone s.toList ∨ Followed IsLocalText IsStrayZone s.toList) ∧
    ((readXsdDate? s).isSome = true ↔
      Followed IsDateText (Optional IsZone) s.toList ∨ Followed IsDateText IsStrayZone s.toList) ∧
    ((readXsdTime? s).isSome = true ↔
      Followed IsTimeText (Optional IsZone) s.toList ∨
        Followed IsTimeText IsStrayZone s.toList) := by
  have hzoned : (readZonedDateTime? s).isSome = true ↔
      Followed IsLocalText IsZone s.toList ∨ Followed IsLocalText IsStrayZone s.toList := by
    rw [← followed_readsAsZone_iff, Option.isSome_iff_exists]
    simp only [readZonedDateTime?_eq_some_iff]
    constructor
    · rintro ⟨t, body, zone, shown, offset, hs, hshown, hzone, -⟩
      exact ⟨body, zone, hs, ⟨shown, hshown⟩, offset, hzone⟩
    · rintro ⟨body, zone, hs, ⟨shown, hshown⟩, offset, hzone⟩
      exact ⟨_, body, zone, shown, offset, hs, hshown, hzone, rfl⟩
  refine ⟨?_, hzoned,
    isSome_read_splitZone_iff readDate?_eq_some_iff WritesDate.not_endsInZone,
    isSome_read_splitZone_iff readTime?_eq_some_iff fun h => h.not_endsInZone []⟩
  rw [followed_optional_iff, or_assoc, ← hzoned, Option.isSome_iff_exists,
    Option.isSome_iff_exists]
  simp only [readDateTime?_eq_some_iff, exists_or]
  refine or_congr_left ⟨?_, ?_⟩
  · rintro ⟨t, shown, hshown, -⟩
    exact ⟨shown, hshown⟩
  · rintro ⟨shown, hshown⟩
    exact ⟨_, shown, hshown, rfl⟩

/-- In `2020-01-01+-5:00` the hours behind the date are a sign and one digit: this is no zone, but
it is read as one. -/
theorem isSome_readXsdDate?_of_stray_zone :
    (readXsdDate? "2020-01-01+-5:00").isSome = true ∧
      ¬Followed IsDateText (Optional IsZone) "2020-01-01+-5:00".toList := by
  refine ⟨by decide, ?_⟩
  rintro ⟨body, zone, hs, ⟨date, hdate⟩, hzone⟩
  have hlength : "2020-01-01".toList.length = body.length := hdate.length_eq.symm
  have hs' : "2020-01-01".toList ++ "+-5:00".toList = body ++ zone := hs
  obtain ⟨-, hrest⟩ := List.append_inj hs' hlength
  rcases hzone with rfl | ⟨offset, ⟨rfl, -⟩ |
    ⟨sign, hours, minutes, h, m, rfl, -, ⟨hhours, -⟩, -⟩⟩
  · cases hrest
  · cases hrest
  · obtain ⟨a, b, rfl, ha, -⟩ := isNumeral_two_iff.1 hhours
    cases hrest
    exact absurd ha (by decide)

end Acceptance

end CsvSchema.Calendar
