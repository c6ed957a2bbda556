import CsvSchema.Schema.Basic
import CsvSchema.Directive
import CsvSchema.Text.Letter

/-!
# The text of a schema

A schema is written as one line for the version, one for each directive that changes a setting, and
one for each column.  The digest of this text identifies the schema.
-/

namespace CsvSchema

/-- Keep a text if a setting is on. -/
def whenSet (isSet : Bool) (text : String) : List String := if isSet then [text] else []

/-- The lines of the directives that change how a file is read. -/
def FileSettings.lines (settings : FileSettings) : List String :=
  whenSet (settings.separator != ',')
    (GlobalDirective.separator.keyword ++
      if settings.separator == '\t' then " TAB"
      else " '" ++ String.singleton settings.separator ++ "'") ++
  whenSet settings.quoted GlobalDirective.quoted.keyword ++
  (settings.totalColumns.map fun total =>
    GlobalDirective.totalColumns.keyword ++ " " ++ Decimal.natText total).toList ++
  whenSet settings.permitEmpty GlobalDirective.permitEmpty.keyword ++
  whenSet settings.noHeader GlobalDirective.noHeader.keyword ++
  whenSet settings.ignoreColumnNameCase GlobalDirective.ignoreColumnNameCase.keyword

/-- The directives of a column. -/
def ColumnSettings.keywords (settings : ColumnSettings) : List String :=
  whenSet settings.optional ColumnDirective.optional.keyword ++
  whenSet settings.matchIsFalse ColumnDirective.matchIsFalse.keyword ++
  whenSet settings.ignoreCase ColumnDirective.ignoreCase.keyword ++
  whenSet settings.warning ColumnDirective.warning.keyword

/-- Whether a character of a name needs no quotes. -/
def isPlainNameChar (c : Char) : Bool :=
  Text.isAlphanumeric c || c == '_' || c == '-' || c == '.'

/-- The name of a column, in quotes where it needs them. -/
def nameText (name : String) : String :=
  if name.toList.all isPlainNameChar then name else "\"" ++ name ++ "\""

/-- The line of a column. -/
def ColumnDefinition.line (column : ColumnDefinition) : String :=
  Text.joinWith " "
    ((nameText column.name ++ ":") :: (checkTexts column.rule.checks ++
      column.rule.settings.keywords))

/-- The lines of a schema. -/
def Schema.lines (schema : Schema) : List String :=
  ("version " ++ schema.version.text) :: schema.settings.lines ++
    schema.columns.map ColumnDefinition.line

/-- A schema as text, where every line ends with a line feed. -/
def Schema.text (schema : Schema) : String :=
  String.join (schema.lines.map (· ++ "\n"))

end CsvSchema
