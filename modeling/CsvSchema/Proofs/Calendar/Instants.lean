import Mathlib.Data.Prod.Lex
import CsvSchema.Proofs.Calendar.DayNumbers
import CsvSchema.Proofs.Calendar.Zones
import CsvSchema.Proofs.Verdict

/-!
# Instants

A date with a time is a second and nanoseconds after its start.  Seconds are counted through all
days, so the instant of a text with a zone is that of the date and time it shows, less the offset of
the zone.  Reading such texts gives equal values exactly for the same instant, and in the order of
the instants, `read_zoned_as_instants`; so is a value compared with bounds.  A leap second comes
after all of the second before it, as more nanoseconds of that second.
-/

namespace CsvSchema.Calendar

namespace DateTime

/-- The seconds up to an instant, counted from the start of the day before day one. -/
def seconds (t : DateTime) : Int := t.date.number * secondsPerDay + t.time.second

/-- An instant: whole seconds, and the nanoseconds after them. -/
def instant (t : DateTime) : ℤ ×ₗ ℕ := toLex (t.seconds, t.time.nano)

theorem seconds_minusSeconds (t : DateTime) (offset : Int) :
    (t.minusSeconds offset).seconds = t.seconds - offset := by
  simp only [seconds, minusSeconds, Date.number_addDays, secondsPerDay]
  omega

theorem instant_minusSeconds (t : DateTime) (offset : Int) :
    (t.minusSeconds offset).instant = toLex (t.seconds - offset, t.time.nano) := by
  rw [instant, seconds_minusSeconds]
  rfl

theorem instant_injective : Function.Injective instant := by
  intro a b h
  have hpairs : (a.seconds, a.time.nano) = (b.seconds, b.time.nano) := toLex.injective h
  obtain ⟨hseconds, hnano⟩ := Prod.mk.inj hpairs
  have ha := a.time.second_lt
  have hb := b.time.second_lt
  simp only [seconds, secondsPerDay] at hseconds ha hb
  -- The second within a day is less than a whole day, so the seconds tell the day.
  have hdate : a.date = b.date := Date.number_injective (by omega)
  have hsecond : a.time.second = b.time.second := by omega
  obtain ⟨date₁, ⟨second₁, nano₁, _, _⟩⟩ := a
  obtain ⟨date₂, ⟨second₂, nano₂, _, _⟩⟩ := b
  simp only [mk.injEq, Time.mk.injEq]
  exact ⟨hdate, hsecond, hnano⟩

/-- The order of dates with times is the order of the instants. -/
theorem le_iff_instant_le {a b : DateTime} : a ≤ b ↔ a.instant ≤ b.instant := by
  have ha := a.time.second_lt
  have hb := b.time.second_lt
  rw [instant, instant, Prod.Lex.toLex_le_toLex]
  change a.notAfter b = true ↔ _
  unfold notAfter
  simp only [seconds, secondsPerDay] at ha hb ⊢
  split
  · rename_i hdate
    simp only [Time.notAfter, Bool.or_eq_true, Bool.and_eq_true, decide_eq_true_eq, beq_iff_eq,
      hdate]
    omega
  · rename_i hdate
    have hnumbers : a.date.number ≠ b.date.number := fun h => hdate (Date.number_injective h)
    change a.date ≤ b.date ↔ _
    rw [Date.le_iff_number_le]
    omega

theorem minusSeconds_zero (t : DateTime) : t.minusSeconds 0 = t :=
  instant_injective (by rw [instant_minusSeconds, Int.sub_zero]; rfl)

end DateTime

/-- A date and a time in a text with a zone behind it. -/
structure Zoned where
  body : List Char
  zone : List Char
  shown : DateTime
  offset : Int
  writesLocal : WritesLocal body shown
  writesZone : WritesZone zone offset

namespace Zoned

/-- The whole text. -/
def text (z : Zoned) : String := String.ofList (z.body ++ z.zone)

/-- The instant that a text denotes: that of the date and time it shows, less the offset. -/
def instant (z : Zoned) : ℤ ×ₗ ℕ := toLex (z.shown.seconds - z.offset, z.shown.time.nano)

/-- What a text is read as. -/
def value (z : Zoned) : DateTime := z.shown.minusSeconds z.offset

theorem instant_value (z : Zoned) : z.value.instant = z.instant :=
  z.shown.instant_minusSeconds z.offset

theorem readZonedDateTime?_text (z : Zoned) : readZonedDateTime? z.text = some z.value :=
  readZonedDateTime?_eq_some_iff.2 ⟨z.body, z.zone, z.shown, z.offset, String.toList_ofList,
    z.writesLocal, z.writesZone.readsAsZone, rfl⟩

theorem readDateTime?_text (z : Zoned) : readDateTime? z.text = some z.value :=
  readDateTime?_eq_some_iff.2 (.inr z.readZonedDateTime?_text)

end Zoned

/-- Whether an instant lies in a range. -/
def Includes (bounds : Bounds DateTime) (instant : ℤ ×ₗ ℕ) : Prop :=
  (∀ lower ∈ bounds.lower, lower.instant ≤ instant) ∧
    ∀ upper ∈ bounds.upper, instant ≤ upper.instant

theorem holds_iff_includes {bounds : Bounds DateTime} {t : DateTime} :
    bounds.holds t = true ↔ Includes bounds t.instant := by
  simp only [Bounds.holds, Includes, Bool.and_eq_true, Option.all_eq_true, decide_eq_true_eq,
    DateTime.le_iff_instant_le]
  rfl

/-- A value test passes exactly if it accepts the value. -/
theorem validate_test_iff {environment : Environment} {row : Row} {fold : Bool}
    {level : Option Severity} {session : Session} {test : ValueTest} {value : String} :
    (Session.validate environment row fold level (.atom (.value test)) value session).1 = true ↔
      test.accepts fold value = true := by
  rw [Session.validate_atom_iff]
  change Finding.ofBool (test.accepts fold value) = .passed ↔ _
  unfold Finding.ofBool
  split <;> simp [*]

/-- Texts with a zone are compared as instants.  Without a zone or with the letter Z a text is read
as the date and time that it shows; two texts are read as equal values exactly if they denote the
same instant, their order is that of the instants, and a value is checked against bounds as an
instant. -/
theorem read_zoned_as_instants (a b : Zoned) :
    readDateTime? (String.ofList a.body) = some a.shown ∧
    readDateTime? (String.ofList (a.body ++ ['Z'])) = some a.shown ∧
    (∃ t u, (readDateTime? a.text = some t ∧ readZonedDateTime? a.text = some t ∧
        t.instant = a.instant) ∧
      (readDateTime? b.text = some u ∧ readZonedDateTime? b.text = some u ∧ u.instant = b.instant) ∧
      (t = u ↔ a.instant = b.instant) ∧ (t ≤ u ↔ a.instant ≤ b.instant)) ∧
    ∀ (bounds : Bounds DateTime) (environment : Environment) (row : Row) (fold : Bool)
      (level : Option Severity) (session : Session),
      ((Session.validate environment row fold level (.atom (.value (.dateTime bounds))) a.text
        session).1 = true ↔ Includes bounds a.instant) ∧
      ((Session.validate environment row fold level (.atom (.value (.zonedDateTime bounds))) a.text
        session).1 = true ↔ Includes bounds a.instant) := by
  refine ⟨?_, ?_, ⟨a.value, b.value,
    ⟨a.readDateTime?_text, a.readZonedDateTime?_text, a.instant_value⟩,
    ⟨b.readDateTime?_text, b.readZonedDateTime?_text, b.instant_value⟩, ?_, ?_⟩, ?_⟩
  · rw [readDateTime?_eq_some_iff, String.toList_ofList]
    exact .inl ⟨a.shown, a.writesLocal, a.shown.minusSeconds_zero.symm⟩
  · let utc : Zoned := { a with zone := ['Z'], offset := 0, writesZone := .inl ⟨rfl, rfl⟩ }
    exact utc.readDateTime?_text.trans (congrArg some a.shown.minusSeconds_zero)
  · rw [← a.instant_value, ← b.instant_value, DateTime.instant_injective.eq_iff]
  · rw [← a.instant_value, ← b.instant_value, DateTime.le_iff_instant_le]
  · intro bounds environment row fold level session
    rw [validate_test_iff, validate_test_iff, ValueTest.accepts, ValueTest.accepts,
      a.readDateTime?_text, a.readZonedDateTime?_text, Option.any_some, holds_iff_includes,
      a.instant_value]
    exact ⟨Iff.rfl, Iff.rfl⟩

/-- Half past eleven in the evening of a leap day in a zone west of Greenwich is the same instant as
a time of the next day in a zone east of it. -/
theorem read_zoned_as_instants_of_leap_day :
    ∃ a b : Zoned, a.text = "2024-02-29T23:30:00.5-01:30" ∧
      b.text = "2024-03-01T01:45:00.500+00:45" ∧
      a.shown.date.day = 29 ∧ b.shown.date.day = 1 ∧
      readDateTime? a.text = readDateTime? b.text := by
  let a : Zoned :=
    { body := "2024-02-29T23:30:00.5".toList
      zone := "-01:30".toList
      shown := ⟨⟨2024, 2, 29, by decide⟩, ⟨84600, 500000000, by decide, by decide⟩⟩
      offset := -5400
      writesLocal := readLocal?_eq_some_iff.1 (by decide +kernel)
      writesZone := .inr ⟨'-', ['0', '1'], ['3', '0'], 1, 30, rfl, .inr rfl,
        ⟨by decide, rfl⟩, ⟨by decide, rfl⟩, by decide, by decide, rfl⟩ }
  let b : Zoned :=
    { body := "2024-03-01T01:45:00.500".toList
      zone := "+00:45".toList
      shown := ⟨⟨2024, 3, 1, by decide⟩, ⟨6300, 500000000, by decide, by decide⟩⟩
      offset := 2700
      writesLocal := readLocal?_eq_some_iff.1 (by decide +kernel)
      writesZone := .inr ⟨'+', ['0', '0'], ['4', '5'], 0, 45, rfl, .inl rfl,
        ⟨by decide, rfl⟩, ⟨by decide, rfl⟩, by decide, by decide, rfl⟩ }
  obtain ⟨-, -, ⟨t, u, ⟨ht, -⟩, ⟨hu, -⟩, hsame, -⟩, -⟩ := read_zoned_as_instants a b
  have hinstant : a.instant = b.instant := by decide +kernel
  refine ⟨a, b, rfl, rfl, rfl, rfl, ?_⟩
  rw [ht, hu, hsame.2 hinstant]

end CsvSchema.Calendar
