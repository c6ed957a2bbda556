import CsvSchema.Reduction.Operand
import CsvSchema.Reduction.Check
import CsvSchema.Reduction.Document

/-!
# Kinds of nodes

The tag of a node says which rule of the grammar it comes from, and so what it reduces to.  Tags of
wrappers that the grammar adds are not listed here.
-/

namespace CsvSchema

/-- What a node with a known tag stands for. -/
inductive NodeKind where
  | start
  | schema
  | prolog
  | settings
  | body
  | comment
  | bodyPart
  | column
  | rule
  | columnSettings
  | check
  | single
  | parenthesized
  | comparison (relation : Relation)
  | any
  | regex
  | range
  | length
  | plain (test : ValueTest)
  | identical
  | unique
  | dateTime
  | zonedDateTime
  | date
  | time
  | ukDate
  | composedDate
  | partialDate
  | fileExists
  | integrity
  | checksum
  | fileCount
  | or
  | and
  | conditional
  | clause
  | switch
  | switchCase
  | provided
  | reference
  | concat
  | noExtension
  | uriDecode
  | file
  | setting (directive : GlobalDirective)
  | columnDirective (directive : ColumnDirective)

namespace NodeKind

/-- The tags of the grammar with what they stand for. -/
def tags : List (String × NodeKind) :=
  [("start", start), ("schema", schema), ("prolog", prolog), ("global_directives", settings),
    ("body", body), ("comment", comment), ("body_part", bodyPart),
    ("column_definition", column), ("column_rule", rule), ("column_directives", columnSettings),
    ("column_validation_expr", check), ("single_expr", single), ("external_single_expr", single),
    ("parenthesized_expr", parenthesized), ("is_expr", comparison .is),
    ("not_expr", comparison .isNot), ("in_expr", comparison .contains),
    ("starts_with_expr", comparison .startsWith), ("ends_with_expr", comparison .endsWith),
    ("any_expr", any), ("reg_exp_expr", regex), ("range_expr", range), ("length_expr", length),
    ("empty_expr", plain .empty), ("not_empty_expr", plain .notEmpty), ("uri_expr", plain .uri),
    ("uuid4_expr", plain .uuid4), ("positive_integer_expr", plain .positiveInteger),
    ("uppercase_expr", plain .upperCase), ("lowercase_expr", plain .lowerCase),
    ("partial_uk_date_expr", plain .partialUkDate), ("identical_expr", identical),
    ("unique_expr", unique), ("xsd_datetime_expr", dateTime),
    ("xsd_datetime_with_timezone_expr", zonedDateTime), ("xsd_date_expr", date),
    ("xsd_time_expr", time), ("uk_date_expr", ukDate), ("date_expr", composedDate),
    ("partial_date_expr", partialDate), ("file_exists_expr", fileExists),
    ("integrity_check_expr", integrity), ("checksum_expr", checksum),
    ("file_count_expr", fileCount), ("or_expr", or), ("and_expr", and), ("if_expr", conditional),
    ("if_clause", clause), ("switch_expr", switch), ("switch_case_expr", switchCase),
    ("string_provider", provided), ("column_ref", reference), ("concat_expr", concat),
    ("no_ext_expr", noExtension), ("uri_decode_expr", uriDecode), ("file_expr", file)] ++
  GlobalDirective.all.map (fun directive => (directive.tag, setting directive)) ++
  ColumnDirective.all.map fun directive => (directive.tag, columnDirective directive)

/-- What a tag stands for. -/
def ofTag? (tag : String) : Option NodeKind := tags.lookup tag

/-- How many slots of memory a node takes for itself. -/
def slots : NodeKind → Nat
  | unique | identical | integrity => 1
  | _ => 0

/-- The part that is made of some parts, when `slot` is the next free slot. -/
def reduce (slot : Nat) : NodeKind → List Part → Except Fault Part
  | start, parts => (reduceStart parts).map .schema
  | schema, parts => (reduceSchema parts).map .schema
  | prolog, parts => reduceProlog parts
  | settings, parts => (reduceSettings parts).map .settings
  | body, parts => reduceBody slot parts
  | comment, _ => .ok .comment
  | bodyPart, parts => reduceBodyPart parts
  | column, parts => (reduceColumn parts).map .column
  | rule, parts => (reduceRule parts).map .rule
  | columnSettings, parts => (reduceColumnSettings parts).map .columnSettings
  | check, parts =>
      match parts with
      | [part] => part.asCheck.map .check
      | parts => wrongCount [1] parts
  | single, parts => (reduceSingle parts).map .check
  | parenthesized, parts => (reduceChecks parts).map fun checks => .check (.parenthesized checks)
  | comparison relation, parts => (reduceComparison relation parts).map .check
  | any, parts => (reduceAny parts).map .check
  | regex, parts => (reduceRegex parts).map .check
  | range, parts => (reduceRange parts).map .check
  | length, parts => (reduceLength parts).map .check
  | plain test, parts => (reducePlain test parts).map .check
  | identical, parts => (reduceIdentical slot parts).map .check
  | unique, parts => (reduceUnique slot parts).map .check
  | dateTime, parts => (reduceBounded dateTimeForm .dateTime parts).map .check
  | zonedDateTime, parts => (reduceBounded zonedDateTimeForm .zonedDateTime parts).map .check
  | date, parts => (reduceBounded dateForm .date parts).map .check
  | time, parts => (reduceBounded timeForm .time parts).map .check
  | ukDate, parts => (reduceBounded ukDateForm .ukDate parts).map .check
  | composedDate, parts => (reduceComposedDate parts).map .check
  | partialDate, parts => (reducePartialDate parts).map .check
  | fileExists, parts => (reduceFileExists parts).map .check
  | integrity, parts => (reduceIntegrity slot parts).map .check
  | checksum, parts => (reduceChecksum parts).map .check
  | fileCount, parts => (reduceFileCount parts).map .check
  | or, parts => (reduceLogical .or parts).map .check
  | and, parts => (reduceLogical .and parts).map .check
  | conditional, parts => (reduceConditional parts).map .check
  | clause, parts => (reduceChecks parts).map .clause
  | switch, parts => (reduceSwitch parts).map .check
  | switchCase, parts => (reduceCase parts).map .switchCase
  | provided, parts => (reduceProvided parts).map .operand
  | reference, parts => (reduceReference parts).map .operand
  | concat, parts => (reduceConcat parts).map .operand
  | noExtension, parts => (reduceNoExtension parts).map .operand
  | uriDecode, parts => (reduceUriDecode parts).map .operand
  | file, parts => (reduceFile parts).map .operand
  | setting directive, parts => (reduceSetting directive parts).map .setting
  | columnDirective directive, parts => reduceFlag (.columnDirective directive) parts

end NodeKind

end CsvSchema
