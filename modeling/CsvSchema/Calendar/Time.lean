import CsvSchema.Calendar.Date

/-!
# Times of day and instants

A time is a second of the day and nanoseconds after it.  A leap second is the last second of its
minute with a whole second more of nanoseconds, so it comes after all of that second and before
the next minute.  A date with a time moves by an offset as one number, with the carry into the
calendar.
-/

namespace CsvSchema.Calendar

/-- The seconds of a day. -/
def secondsPerDay : Nat := 86400

/-- The nanoseconds of a second. -/
def nanosPerSecond : Nat := 1000000000

/-- A time of day. -/
structure Time where
  second : Nat
  nano : Nat
  second_lt : second < secondsPerDay
  nano_lt : nano < 2 * nanosPerSecond
  deriving DecidableEq

namespace Time

/-- The time a clock shows, which may show second 60. -/
def ofClock? (hour minute second nano : Nat) : Option Time :=
  if h : hour < 24 ∧ minute < 60 ∧ second ≤ 60 ∧ nano < nanosPerSecond then
    if second = 60 then
      some ⟨hour * 3600 + minute * 60 + 59, nanosPerSecond + nano,
        by unfold secondsPerDay; omega, by omega⟩
    else
      some ⟨hour * 3600 + minute * 60 + second % 60, nano,
        by unfold secondsPerDay; omega, by omega⟩
  else none

/-- Whether a time is another time or an earlier one. -/
def notAfter (a b : Time) : Bool :=
  a.second < b.second || (a.second == b.second && a.nano ≤ b.nano)

instance : LE Time := ⟨fun a b => a.notAfter b = true⟩

instance (a b : Time) : Decidable (a ≤ b) := inferInstanceAs (Decidable (a.notAfter b = true))

/-- The fraction of a second in three, six or nine places, whichever is the fewest
that hold it, and nothing for a whole second. -/
def fractionText (nano : Nat) : List Char :=
  if nano = 0 then []
  else if nano % 1000000 = 0 then '.' :: Decimal.paddedDigits 3 (nano / 1000000)
  else if nano % 1000 = 0 then '.' :: Decimal.paddedDigits 6 (nano / 1000)
  else '.' :: Decimal.paddedDigits 9 nano

/-- The text of a time, as in `13:45:00.250`. -/
def chars (t : Time) : List Char :=
  let leap := nanosPerSecond ≤ t.nano
  let second := if leap then t.second % 60 + 1 else t.second % 60
  let nano := if leap then t.nano - nanosPerSecond else t.nano
  Decimal.paddedDigits 2 (t.second / 3600) ++ ':' ::
    Decimal.paddedDigits 2 (t.second / 60 % 60) ++ ':' ::
    Decimal.paddedDigits 2 second ++ fractionText nano

/-- The text of a time as a string. -/
def text (t : Time) : String := String.ofList t.chars

end Time

/-- A date with a time of day. -/
structure DateTime where
  date : Date
  time : Time
  deriving DecidableEq

namespace DateTime

/-- Whether an instant is another instant or an earlier one. -/
def notAfter (a b : DateTime) : Bool :=
  if a.date = b.date then a.time.notAfter b.time else a.date.notAfter b.date

instance : LE DateTime := ⟨fun a b => a.notAfter b = true⟩

instance (a b : DateTime) : Decidable (a ≤ b) :=
  inferInstanceAs (Decidable (a.notAfter b = true))

/-- The instant a number of seconds earlier.  The nanoseconds stay as they are. -/
def minusSeconds (t : DateTime) (seconds : Int) : DateTime :=
  let total : Int := t.time.second - seconds
  ⟨t.date.addDays (total / secondsPerDay),
    ⟨(total % secondsPerDay).toNat, t.time.nano,
      by unfold secondsPerDay; omega, t.time.nano_lt⟩⟩

/-- The text of a date with a time, as in `2024-02-29 13:45:00`. -/
def text (t : DateTime) : String := String.ofList (t.date.chars ++ ' ' :: t.time.chars)

end DateTime

end CsvSchema.Calendar
