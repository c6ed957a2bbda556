/-!
# Directives

A directive changes how the whole file or one column is read.  Each has a keyword in schema text,
a tag in parse trees, and a setting that applies when it is absent.
-/

namespace CsvSchema

/-- A directive for the whole file. -/
inductive GlobalDirective where
  | separator
  | quoted
  | totalColumns
  | permitEmpty
  | noHeader
  | ignoreColumnNameCase
  deriving Repr, DecidableEq

namespace GlobalDirective

/-- All directives for the whole file. -/
def all : List GlobalDirective :=
  [separator, quoted, totalColumns, permitEmpty, noHeader, ignoreColumnNameCase]

/-- The tag of a directive's node. -/
def tag : GlobalDirective → String
  | separator => "separator_directive"
  | quoted => "quoted_directive"
  | totalColumns => "total_columns_directive"
  | permitEmpty => "permit_empty_directive"
  | noHeader => "no_header_directive"
  | ignoreColumnNameCase => "ignore_column_name_case_directive"

/-- The keyword of a directive. -/
def keyword : GlobalDirective → String
  | separator => "@separator"
  | quoted => "@quoted"
  | totalColumns => "@totalColumns"
  | permitEmpty => "@permitEmpty"
  | noHeader => "@noHeader"
  | ignoreColumnNameCase => "@ignoreColumnNameCase"

/-- Whether a value follows the keyword. -/
def takesValue : GlobalDirective → Bool
  | separator | totalColumns => true
  | _ => false

/-- The setting without the directive. -/
def absentSetting : GlobalDirective → String
  | separator => ","
  | totalColumns => "none"
  | _ => "false"

/-- The directive with a tag. -/
def ofTag? (tag : String) : Option GlobalDirective := all.find? (·.tag == tag)

end GlobalDirective

/-- A directive for one column. -/
inductive ColumnDirective where
  | optional
  | matchIsFalse
  | ignoreCase
  | warning
  deriving Repr, DecidableEq

namespace ColumnDirective

/-- All directives for one column. -/
def all : List ColumnDirective := [optional, matchIsFalse, ignoreCase, warning]

/-- The tag of a directive's node. -/
def tag : ColumnDirective → String
  | optional => "optional_directive"
  | matchIsFalse => "match_is_false_directive"
  | ignoreCase => "ignore_case_directive"
  | warning => "warning_directive"

/-- The keyword of a directive. -/
def keyword : ColumnDirective → String
  | optional => "@optional"
  | matchIsFalse => "@matchIsFalse"
  | ignoreCase => "@ignoreCase"
  | warning => "@warning"

/-- Whether a value follows the keyword. -/
def takesValue (_ : ColumnDirective) : Bool := false

/-- The setting without the directive. -/
def absentSetting (_ : ColumnDirective) : String := "false"

/-- The directive with a tag. -/
def ofTag? (tag : String) : Option ColumnDirective := all.find? (·.tag == tag)

end ColumnDirective

/-- Whether a tag is named like the tag of a directive. -/
def looksLikeDirective (tag : String) : Bool :=
  "_directive".toList.isSuffixOf tag.toList

end CsvSchema
