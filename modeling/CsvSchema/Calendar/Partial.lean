import CsvSchema.Calendar.Lexical

/-!
# Dates that are known in part

Archives record dates of which some component is unknown.  An unknown component is an asterisk or
is filled with question marks.
-/

namespace CsvSchema.Calendar

open Decimal (isDigit isDigits readNatural? maxWord32)

/-- The names of the months, in their order. -/
def monthNames : List String :=
  ["January", "February", "March", "April", "May", "June", "July", "August", "September",
    "October", "November", "December"]

/-- Whether a component is unknown: an asterisk, or one or more question marks. -/
def isUnknown (part : List Char) : Bool :=
  part == ['*'] || (!part.isEmpty && part.all (· == '?'))

/-- Whether a component has a given width and holds digits and question marks only. -/
def isPartlyKnown (width : Nat) (part : List Char) : Bool :=
  part.length == width && part.all fun c => isDigit c || c == '?'

/-- A day of the month in two places, each a digit or a question mark. -/
def isPartialDay (day : List Char) : Bool :=
  day == ['*'] || (isPartlyKnown 2 day && (day.contains '?' ||
    match readNatural? maxWord32 day with
    | some n => 1 ≤ n && n ≤ 31
    | none => false))

/-- Whether a text has the form `dd/Month/yyyy`, each component known or not.  The
day is not compared with the length of the month. -/
def isPartialUkDate (s : String) : Bool :=
  match Text.splitOn '/' s.toList with
  | [day, month, year] =>
      isPartialDay day &&
        (isUnknown month || monthNames.contains (String.ofList month)) &&
        (year == ['*'] || isPartlyKnown 4 year)
  | _ => false

/-- A known month or day: a number from one to `largest` in at most two characters. -/
def knownNumber? (largest : Nat) (part : List Char) : Option Nat :=
  match readNatural? maxWord32 part with
  | some n => if 1 ≤ n && n ≤ largest && part.length ≤ 2 then some n else none
  | none => none

/-- Whether a month has a day in some year. -/
def isDayOfSomeYear (month day : Nat) : Bool :=
  (Date.ofNumbers? 2000 month day).isSome

/-- Whether a year, a month and a day, each known or not, fit together.  With an
unknown year 29 February is possible. -/
def isPartialDate (year month day : String) : Bool :=
  let yearKnown := !isUnknown year.toList
  let yearFits := !yearKnown || (year.toList.length == 4 && isDigits year.toList)
  let month := if isUnknown month.toList then some none
    else (knownNumber? 12 month.toList).map some
  let day := if isUnknown day.toList then some none
    else (knownNumber? 31 day.toList).map some
  yearFits &&
    match month, day with
    | some (some m), some (some d) =>
        if yearKnown then
          (composeDate? year (Decimal.natText m) (Decimal.natText d)).isSome
        else isDayOfSomeYear m d
    | some _, some _ => true
    | _, _ => false

end CsvSchema.Calendar
