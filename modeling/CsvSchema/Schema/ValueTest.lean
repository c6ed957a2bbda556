import CsvSchema.Schema.Bounds
import CsvSchema.Pattern.Basic
import CsvSchema.Calendar.Partial
import CsvSchema.Decimal.Shortest
import CsvSchema.Decimal.Binary64
import CsvSchema.Uri.Basic

/-!
# Tests of a value alone

Some checks need nothing but the value: its length, its letters, or the form that it is written in.
Only patterns and the letters of a UUID can be matched without regard to case; the other tests
are about characters that have none, or about case itself.
-/

namespace CsvSchema

/-- A test that looks at the value and at nothing else. -/
inductive ValueTest where
  | empty
  | notEmpty
  | regex (pattern : Pattern)
  | range (bounds : Bounds Decimal.Binary64)
  | length (rule : LengthRule)
  | uri
  | dateTime (bounds : Bounds Calendar.DateTime)
  | zonedDateTime (bounds : Bounds Calendar.DateTime)
  | date (bounds : Bounds Calendar.Date)
  | time (bounds : Bounds Calendar.Time)
  | ukDate (bounds : Bounds Calendar.Date)
  | partialUkDate
  | uuid4
  | positiveInteger
  | upperCase
  | lowerCase

namespace ValueTest

/-- Where the hyphens of a UUID stand. -/
def isHyphenPlace (place : Nat) : Bool :=
  place == 8 || place == 13 || place == 18 || place == 23

/-- Whether a text is a random UUID in five groups of hexadecimal digits.  Capital
letters are refused unless case does not matter. -/
def isUuid4 (fold : Bool) (s : List Char) : Bool :=
  s.length == 36 && (fold || !s.any Char.isUpper) &&
    (s.zipIdx.all fun (c, place) =>
      if isHyphenPlace place then c == '-' else (Text.hexDigit? c).isSome) &&
    s[14]? == some '4' &&
    (s[19]?.map Char.toLower).any fun c => ['8', '9', 'a', 'b'].contains c

/-- Whether a value is a finite number within bounds, blanks around it ignored. -/
def isInRange (bounds : Bounds Decimal.Binary64) (value : String) : Bool :=
  (Decimal.readBinary64? (Text.trim value.toList)).any bounds.holds

/-- Whether a value passes a test. -/
def accepts (fold : Bool) (value : String) : ValueTest → Bool
  | empty => value.isEmpty
  | notEmpty => !value.isEmpty
  | regex pattern => pattern.isFullMatch value fold
  | range bounds => isInRange bounds value
  | length rule => rule.holds value.length
  | uri => Uri.isUri value
  | dateTime bounds => (Calendar.readDateTime? value).any bounds.holds
  | zonedDateTime bounds => (Calendar.readZonedDateTime? value).any bounds.holds
  | date bounds => (Calendar.readXsdDate? value).any bounds.holds
  | time bounds => (Calendar.readXsdTime? value).any bounds.holds
  | ukDate bounds => (Calendar.readUkDate? value).any bounds.holds
  | partialUkDate => Calendar.isPartialUkDate value
  | uuid4 => isUuid4 fold value.toList
  | positiveInteger => Decimal.isDigits value.toList
  | upperCase => value.toList.all Text.isUppercase
  | lowerCase => value.toList.all Text.isLowercase

/-- A test in schema text. -/
def text : ValueTest → String
  | empty => "empty"
  | notEmpty => "notEmpty"
  | regex pattern => "regex(\"" ++ pattern.source ++ "\")"
  | range bounds => "range(" ++ bounds.text Decimal.Binary64.text ++ ")"
  | length rule => "length(" ++ rule.text ++ ")"
  | uri => "uri"
  | dateTime bounds => bounds.ruleText "xDateTime" Calendar.DateTime.text
  | zonedDateTime bounds => bounds.ruleText "xDateTimeTz" Calendar.DateTime.text
  | date bounds => bounds.ruleText "xDate" Calendar.Date.text
  | time bounds => bounds.ruleText "xTime" Calendar.Time.text
  | ukDate bounds => bounds.ruleText "ukDate" Calendar.Date.text
  | partialUkDate => "partUkDate"
  | uuid4 => "uuid4"
  | positiveInteger => "positiveInteger"
  | upperCase => "upperCase"
  | lowerCase => "lowerCase"

end ValueTest

end CsvSchema
