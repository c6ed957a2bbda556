import CsvSchema.Reduction.Argument

/-!
# Reducing the document

The settings at the head of a schema, the definitions of its columns, and the schema itself.
-/

namespace CsvSchema

/-- The separator that a token writes: a tab by name, or one ASCII character that does
not end a line. -/
def readSeparator (raw : String) : Except Fault Char :=
  let text := Text.trimmed raw
  if text = "TAB" || text = "\\t" || Text.literalText text = "\\t" then .ok '\t'
  else
    match (Text.literalText text).toList with
    | [c] =>
        if c.toNat < 0x80 && c != '\n' && c != '\r' then .ok c else .error (.badSeparator raw)
    | _ => .error (.badSeparator raw)

/-- The number of columns that a token writes. -/
def readTotalColumns (raw : String) : Except Fault Nat :=
  match Decimal.readNatural? Decimal.maxWord64 (Text.literalText raw).toList with
  | some (n + 1) => .ok (n + 1)
  | _ => .error (.badTotalColumns raw)

/-- A directive whose value is a token. -/
def reduceValued (read : String → Except Fault GlobalSetting) :
    List Part → Except Fault GlobalSetting
  | [part] => do read (← part.asToken)
  | parts => wrongCount [1] parts

/-- A directive without a value. -/
def reduceFlag {α : Type} (setting : α) : List Part → Except Fault α
  | [] => .ok setting
  | parts => wrongCount [0] parts

/-- A directive for the whole file. -/
def reduceSetting : GlobalDirective → List Part → Except Fault GlobalSetting
  | .separator => reduceValued fun raw => (readSeparator raw).map .separator
  | .totalColumns => reduceValued fun raw => (readTotalColumns raw).map .totalColumns
  | .quoted => reduceFlag .quoted
  | .permitEmpty => reduceFlag .permitEmpty
  | .noHeader => reduceFlag .noHeader
  | .ignoreColumnNameCase => reduceFlag .ignoreColumnNameCase

/-- Take one more directive into account, which must not have been there before. -/
def addSetting (state : FileSettings × List GlobalDirective) (part : Part) :
    Except Fault (FileSettings × List GlobalDirective) := do
  let setting ← part.asSetting
  if state.2.contains setting.directive then throw (.repeatedDirective setting.directive)
  else return (setting.apply state.1, setting.directive :: state.2)

/-- All directives for the whole file.  Without a header there are no names whose case
could be ignored. -/
def reduceSettings (parts : List Part) : Except Fault FileSettings := do
  let (settings, _) ← parts.foldlM addSetting (.initial, [])
  if settings.noHeader && settings.ignoreColumnNameCase then throw .conflictingDirectives
  else return settings

/-- The settings that may stand at the head of some parts, and the parts after them. -/
def splitSettings : List Part → FileSettings × List Part
  | .settings settings :: rest => (settings, rest)
  | parts => (.initial, parts)

/-- The version and the settings at the head of a schema. -/
def reduceProlog : List Part → Except Fault Part
  | .token raw :: rest => do
      let text := Text.declaredVersion raw
      match Version.ofText? text with
      | none => throw (.unsupportedVersion text)
      | some version =>
          let (settings, rest) := splitSettings rest
          refuseRest rest
          return .prolog version settings
  | _ => .error .missingVersion

/-- Take one more directive of a column into account. -/
def addColumnDirective (state : ColumnSettings × List ColumnDirective)
    (directive : ColumnDirective) : Except Fault (ColumnSettings × List ColumnDirective) :=
  if state.2.contains directive then .error (.repeatedColumnDirective directive)
  else .ok (directive.apply state.1, directive :: state.2)

/-- All directives of a column. -/
def reduceColumnSettings (parts : List Part) : Except Fault ColumnSettings := do
  let directives ← parts.mapM Part.asColumnDirective
  let (settings, _) ← directives.foldlM addColumnDirective (.initial, [])
  return settings

/-- The checks at the head of some parts, and the parts after them. -/
def splitChecks : List Part → List Check × List Part
  | .check check :: rest =>
      let (checks, rest) := splitChecks rest
      (check :: checks, rest)
  | parts => ([], parts)

/-- The directives that may stand at the head of some parts, and the parts after them. -/
def splitColumnSettings : List Part → ColumnSettings × List Part
  | .columnSettings settings :: rest => (settings, rest)
  | parts => (.initial, parts)

/-- The rule of a column: checks, then directives. -/
def reduceRule (parts : List Part) : Except Fault ColumnRule := do
  let (checks, rest) := splitChecks parts
  let (settings, rest) := splitColumnSettings rest
  refuseRest rest
  return ⟨checks, settings⟩

/-- A column: its name, then its rule. -/
def reduceColumn : List Part → Except Fault ColumnDefinition
  | [name, rule] => do
      let name := Text.declaredName (← name.asToken)
      if name = "" then throw .emptyColumnName
      else return ⟨name, ← rule.asRule⟩
  | parts => wrongCount [2] parts

/-- The columns of a schema, which use the slots that have been given out so far. -/
def reduceBody (slots : Nat) (parts : List Part) : Except Fault Part :=
  return .body (← parts.mapM Part.asColumn) slots

/-- Refuse a column with the key of an earlier one. -/
def checkColumnNames (settings : FileSettings) :
    List String → List ColumnDefinition → Except Fault Unit
  | _, [] => .ok ()
  | seen, column :: rest =>
      if seen.contains (settings.columnKey column.name) then .error (.repeatedColumn column.name)
      else checkColumnNames settings (settings.columnKey column.name :: seen) rest

/-- A schema: its head, then its columns. -/
def reduceSchema : List Part → Except Fault Schema
  | [head, columns] => do
      let (version, settings) ← head.asProlog
      let (columns, slots) ← columns.asBody
      checkColumnNames settings [] columns
      return ⟨version, settings, columns, slots⟩
  | parts => wrongCount [2] parts

/-- A schema as the only part. -/
def reduceStart : List Part → Except Fault Schema
  | [part] => part.asSchema
  | parts => wrongCount [1] parts

/-- A part of the columns.  One that held only a comment is empty and counts as a
comment itself. -/
def reduceBodyPart : List Part → Except Fault Part
  | [] => .ok .comment
  | [part] => .ok part
  | parts => wrongCount [0, 1] parts

end CsvSchema
