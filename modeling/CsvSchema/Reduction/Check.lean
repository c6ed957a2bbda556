import CsvSchema.Reduction.Argument

/-!
# Reducing checks

Everything that a check is configured with is read here, so that a schema with a bad bound, pattern
or name is refused as a whole.
-/

namespace CsvSchema

/-- The bounds of a range are finite numbers. -/
def rangeForm : BoundForm Decimal.Binary64 :=
  ⟨"range", fun text => Decimal.readBinary64? (Text.trim text.toList), Decimal.Binary64.text⟩

/-- A length that a token writes. -/
def readLength? (text : String) : Option Nat :=
  Decimal.readNatural? Decimal.maxWord64 (Text.trim text.toList)

/-- The bounds of a length are natural numbers. -/
def lengthForm : BoundForm Nat := ⟨"length", readLength?, Decimal.natText⟩

/-- The bounds of a date and time are dates and times. -/
def dateTimeForm : BoundForm Calendar.DateTime :=
  ⟨"xDateTime", Calendar.readDateTime?, Calendar.DateTime.text⟩

/-- The bounds of a date and time with a zone have zones too. -/
def zonedDateTimeForm : BoundForm Calendar.DateTime :=
  ⟨"xDateTimeTz", Calendar.readZonedDateTime?, Calendar.DateTime.text⟩

/-- The bounds of a date are dates. -/
def dateForm : BoundForm Calendar.Date := ⟨"xDate", Calendar.readXsdDate?, Calendar.Date.text⟩

/-- The bounds of a time are times. -/
def timeForm : BoundForm Calendar.Time := ⟨"xTime", Calendar.readXsdTime?, Calendar.Time.text⟩

/-- The bounds of a British date are British dates. -/
def ukDateForm : BoundForm Calendar.Date := ⟨"ukDate", Calendar.readUkDate?, Calendar.Date.text⟩

/-- The bounds of a date in three operands are written in one piece. -/
def composedDateForm : BoundForm Calendar.Date :=
  ⟨"date", Calendar.readXsdDate?, Calendar.Date.text⟩

/-- A test without arguments. -/
def reducePlain (test : ValueTest) : List Part → Except Fault Check
  | [] => .ok (.atom (.value test))
  | parts => wrongCount [0] parts

/-- A test with a pattern. -/
def reduceRegex : List Part → Except Fault Check
  | [part] => do
      let raw ← part.asToken
      match Pattern.ofSource? (Text.literalText raw) with
      | some pattern => return .atom (.value (.regex pattern))
      | none => throw (.badPattern raw)
  | parts => wrongCount [1] parts

/-- A test with two bounds. -/
def reduceRange : List Part → Except Fault Check
  | [lower, upper] => return .atom (.value (.range (← readBounds rangeForm lower upper)))
  | parts => wrongCount [2] parts

/-- A test with a length or with two bounds for it. -/
def reduceLength : List Part → Except Fault Check
  | [part] => do
      let raw ← part.asToken
      match readLength? (Text.literalText raw) with
      | some length => return .atom (.value (.length (.exactly length)))
      | none => throw (.badLength raw)
  | [lower, upper] =>
      return .atom (.value (.length (.between (← readBounds lengthForm lower upper))))
  | parts => wrongCount [1, 2] parts

/-- A test with two bounds or none. -/
def reduceBounded {α : Type} [LE α] [DecidableLE α] (form : BoundForm α)
    (test : Bounds α → ValueTest) : List Part → Except Fault Check
  | [] => .ok (.atom (.value (test .unbounded)))
  | [lower, upper] => return .atom (.value (test (← readBounds form lower upper)))
  | parts => wrongCount [0, 2] parts

/-- A comparison with an operand. -/
def reduceComparison (relation : Relation) : List Part → Except Fault Check
  | [part] => return .atom (.compare relation (← part.asOperand))
  | parts => wrongCount [1] parts

/-- A comparison with any of some operands, at least one. -/
def reduceAny (parts : List Part) : Except Fault Check :=
  if parts.isEmpty then .error (.tooFew 1 parts.length)
  else return .atom (.any (← parts.mapM Part.asOperand))

/-- A date from three operands, perhaps with bounds. -/
def reduceComposedDate : List Part → Except Fault Check
  | [year, month, day] =>
      return .atom (.composedDate (← year.asOperand) (← month.asOperand) (← day.asOperand)
        .unbounded)
  | [year, month, day, lower, upper] =>
      return .atom (.composedDate (← year.asOperand) (← month.asOperand) (← day.asOperand)
        (← readBounds composedDateForm lower upper))
  | parts => wrongCount [3, 5] parts

/-- A date from three operands of which some may be unknown. -/
def reducePartialDate : List Part → Except Fault Check
  | [year, month, day] =>
      return .atom (.partialDate (← year.asOperand) (← month.asOperand) (← day.asOperand))
  | parts => wrongCount [3] parts

/-- A check that no earlier record has the same value, or the same values of some
columns. -/
def reduceUnique (slot : Nat) (parts : List Part) : Except Fault Check :=
  return .atom (.unique (← parts.mapM Part.asReference) slot)

/-- A check that all records have the same value. -/
def reduceIdentical (slot : Nat) : List Part → Except Fault Check
  | [] => .ok (.atom (.identical slot))
  | parts => wrongCount [0] parts

/-- A check that a file exists, perhaps in a folder. -/
def reduceFileExists : List Part → Except Fault Check
  | [] => .ok (.atom (.fileExists none))
  | [folder] => return .atom (.fileExists (some (← folder.asOperand)))
  | parts => wrongCount [0, 1] parts

/-- What an integrity check does with folders. -/
def readFolderRule (part : Part) : Except Fault FolderRule := do
  let text := Text.literalText (← part.asToken)
  match FolderRule.ofText? text with
  | some rule => return rule
  | none => throw (.unknownFolderRule text)

/-- A check that the files in a folder are those that records name. -/
def reduceIntegrity (slot : Nat) : List Part → Except Fault Check
  | [rule] => return .atom (.integrity none none (← readFolderRule rule) slot)
  | [folder, rule] =>
      return .atom (.integrity (some (← folder.asOperand)) none (← readFolderRule rule) slot)
  | [folder, subfolder, rule] =>
      return .atom (.integrity (some (← folder.asOperand)) (some (← subfolder.asOperand))
        (← readFolderRule rule) slot)
  | parts => wrongCount [1, 2, 3] parts

/-- A check that a value is the digest of a file. -/
def reduceChecksum : List Part → Except Fault Check
  | [file, algorithm] => do
      let file ← file.asOperand
      let name := Text.literalText (← algorithm.asToken)
      match HashAlgorithm.ofName? name with
      | some algorithm => return .atom (.checksum file algorithm)
      | none => throw (.unsupportedHash name)
  | parts => wrongCount [2] parts

/-- A check that a value is the number of entries of a folder. -/
def reduceFileCount : List Part → Except Fault Check
  | [folder] => return .atom (.fileCount (← folder.asOperand))
  | parts => wrongCount [1] parts

/-- Two or more checks that are combined. -/
def reduceLogical (combine : List Check → Check) (parts : List Part) : Except Fault Check :=
  if parts.length < 2 then .error (.tooFew 2 parts.length)
  else return combine (← parts.mapM Part.asCheck)

/-- One or more checks, in order. -/
def reduceChecks (parts : List Part) : Except Fault (List Check) :=
  if parts.isEmpty then .error (.tooFew 1 parts.length)
  else parts.mapM Part.asCheck

/-- A check, perhaps of another column. -/
def reduceSingle : List Part → Except Fault Check
  | [check] => return .single none (← check.asCheck)
  | [column, check] => return .single (some (← column.asReference)) (← check.asCheck)
  | parts => wrongCount [1, 2] parts

/-- A condition with a clause for when it holds and perhaps one for when it does not. -/
def reduceConditional : List Part → Except Fault Check
  | [condition, clause] => return .conditional (← condition.asCheck) (← clause.asClause) none
  | [condition, clause, otherwise] =>
      return .conditional (← condition.asCheck) (← clause.asClause) (some (← otherwise.asClause))
  | parts => wrongCount [2, 3] parts

/-- A condition with its clause. -/
def reduceCase : List Part → Except Fault SwitchCase
  | [condition, clause] => return .mk (← condition.asCheck) (← clause.asClause)
  | parts => wrongCount [2] parts

/-- The cases at the head of some parts, and the parts after them. -/
def splitCases : List Part → List SwitchCase × List Part
  | .switchCase switchCase :: rest =>
      let (cases, rest) := splitCases rest
      (switchCase :: cases, rest)
  | parts => ([], parts)

/-- One or more cases, and perhaps a clause for when none of them holds. -/
def reduceSwitch (parts : List Part) : Except Fault Check :=
  match splitCases parts with
  | ([], []) => .error (.tooFew 1 parts.length)
  | ([], part :: _) => .error (.unexpected .switchCase part.kind)
  | (cases, []) => .ok (.switch cases none)
  | (cases, otherwise :: rest) => do
      let clause ← otherwise.asClause
      refuseRest rest
      return .switch cases (some clause)

end CsvSchema
