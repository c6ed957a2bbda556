import CsvSchema.Calendar.Time

/-!
# Written dates and times

The forms of the XML Schema types `date`, `time` and `dateTime`, the British form `dd/mm/yyyy`, and
a date whose three numbers come from separate texts.  A date and time with a zone is read as the
instant it denotes, so bounds and values from different zones compare correctly; the zone of a bare
date or a bare time is allowed and ignored.
-/

namespace CsvSchema.Calendar

open Decimal (isDigit isDigits digitsValue digitValue)

/-- Two characters of a zone as a number: two digits, or one digit with a sign. -/
def zoneNumber? (a b : Char) : Option Int :=
  if isDigit b then
    if isDigit a then some (10 * digitValue a + digitValue b)
    else if a == '+' then some (digitValue b)
    else if a == '-' then some (-(digitValue b : Int))
    else none
  else none

/-- The offset from a zone's sign, hours and minutes, in seconds east. -/
def zoneOffset? (sign : Char) (hours minutes : Int) : Option Int :=
  if 14 < hours || 59 < minutes then none
  else
    let seconds := hours * 3600 + minutes * 60
    some (if sign == '-' then -seconds else seconds)

/-- A zone at the end of a text, written backwards, with the text before it, also
backwards. -/
def zoneFromEnd? : List Char → Option (List Char × Int)
  | 'Z' :: before => some (before, 0)
  | m₂ :: m₁ :: ':' :: h₂ :: h₁ :: sign :: before =>
      if sign == '+' || sign == '-' then
        (zoneNumber? h₁ h₂).bind fun hours =>
          (zoneNumber? m₁ m₂).bind fun minutes =>
            (zoneOffset? sign hours minutes).map fun offset => (before, offset)
      else none
  | _ => none

/-- Split a zone off the end.  What is not a zone belongs to the text. -/
def splitZone (s : List Char) : List Char × Option Int :=
  match zoneFromEnd? s.reverse with
  | some (before, offset) => (before.reverse, some offset)
  | none => (s, none)

/-- A date in the form `yyyy-mm-dd`. -/
def readDate? : List Char → Option Date
  | [y₁, y₂, y₃, y₄, '-', m₁, m₂, '-', d₁, d₂] =>
      if [y₁, y₂, y₃, y₄, m₁, m₂, d₁, d₂].all isDigit then
        Date.ofNumbers? (digitsValue [y₁, y₂, y₃, y₄]) (digitsValue [m₁, m₂])
          (digitsValue [d₁, d₂])
      else none
  | _ => none

/-- The nanoseconds that the digits of a fraction write, those after the ninth dropped. -/
def fractionNanos (fraction : List Char) : Nat :=
  digitsValue (fraction.take 9) * Nat.pow 10 (9 - fraction.length)

/-- A fraction of a second, in nanoseconds: nothing, or a point and digits. -/
def readFraction? : List Char → Option Nat
  | [] => some 0
  | '.' :: fraction => if isDigits fraction then some (fractionNanos fraction) else none
  | _ => none

/-- A time in the form `hh:mm:ss`, with an optional fraction. -/
def readTime? : List Char → Option Time
  | h₁ :: h₂ :: ':' :: m₁ :: m₂ :: ':' :: s₁ :: s₂ :: rest =>
      if [h₁, h₂, m₁, m₂, s₁, s₂].all isDigit then
        (readFraction? rest).bind fun nano =>
          Time.ofClock? (digitsValue [h₁, h₂]) (digitsValue [m₁, m₂]) (digitsValue [s₁, s₂]) nano
      else none
  | _ => none

/-- A date and a time with the letter T between them. -/
def readLocal? (s : List Char) : Option DateTime :=
  (Text.splitFirst? 'T' s).bind fun parts =>
    (readDate? parts.1).bind fun date =>
      (readTime? parts.2).map fun time => ⟨date, time⟩

/-- An XML Schema `dateTime`.  Without a zone it is taken as it stands. -/
def readDateTime? (s : String) : Option DateTime :=
  let (body, offset) := splitZone s.toList
  (readLocal? body).map fun t => t.minusSeconds (offset.getD 0)

/-- An XML Schema `dateTime` that must have a zone. -/
def readZonedDateTime? (s : String) : Option DateTime :=
  match splitZone s.toList with
  | (body, some offset) => (readLocal? body).map fun t => t.minusSeconds offset
  | (_, none) => none

/-- An XML Schema `date`. -/
def readXsdDate? (s : String) : Option Date := readDate? (splitZone s.toList).1

/-- An XML Schema `time`. -/
def readXsdTime? (s : String) : Option Time := readTime? (splitZone s.toList).1

/-- A date in the form `dd/mm/yyyy`. -/
def readUkDate? (s : String) : Option Date :=
  match Text.splitOn '/' s.toList with
  | [day, month, year] =>
      if day.length == 2 && month.length == 2 && year.length == 4 &&
          isDigits day && isDigits month && isDigits year then
        Date.ofNumbers? (digitsValue year) (digitsValue month) (digitsValue day)
      else none
  | _ => none

/-- Whether a text is one or two digits. -/
def isOneOrTwoDigits (s : List Char) : Bool :=
  (s.length == 1 || s.length == 2) && isDigits s

/-- The date of a year in four digits and a month and a day in one or two each. -/
def composeDate? (year month day : String) : Option Date :=
  if year.toList.length == 4 && isDigits year.toList && isOneOrTwoDigits month.toList &&
      isOneOrTwoDigits day.toList then
    Date.ofNumbers? (digitsValue year.toList) (digitsValue month.toList) (digitsValue day.toList)
  else none

end CsvSchema.Calendar
