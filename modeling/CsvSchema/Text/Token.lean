import CsvSchema.Text.Blank

/-!
# Reading tokens of a schema

A token is raw schema text.  Literals, names and the version declaration each have their own
delimiters to take off, and all of them allow one pair of matching quotes.
-/

namespace CsvSchema.Text

/-- Whether a text of at least two characters starts and ends with `quote`. -/
def isQuotedBy (quote : Char) (s : List Char) : Bool :=
  match s with
  | first :: second :: rest => first == quote && (second :: rest).getLast? == some quote
  | _ => false

/-- Trim, then take off one pair of double quotes, or else one of single quotes.
Quotes that do not match stay. -/
def unquote (s : List Char) : List Char :=
  let t := trim s
  if isQuotedBy '"' t || isQuotedBy '\'' t then t.tail.dropLast else t

/-- The text of a literal token. -/
def literalText (raw : String) : String := String.ofList (unquote raw.toList)

/-- The name in a reference to a column: the dollar sign in front is dropped. -/
def referenceName (raw : String) : String :=
  match trim raw.toList with
  | '$' :: name => String.ofList (unquote name)
  | name => String.ofList (unquote name)

/-- The name of a column that is being declared: colons at the end are dropped. -/
def declaredName (raw : String) : String :=
  String.ofList (unquote (trimEnd (dropEndWhile (· == ':') (trim raw.toList))))

/-- The version in a declaration, where the keyword may stand in front of it. -/
def declaredVersion (raw : String) : String :=
  String.ofList (unquote (trim (dropStartRepeatedly "version".toList (trim raw.toList))))

end CsvSchema.Text
