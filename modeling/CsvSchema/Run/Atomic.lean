import CsvSchema.Run.Scope

/-!
# Atomic checks

What an atomic check finds out about a value, that it passes or that it fails, perhaps with a
detail; how each check decides, and what it says when it fails.  Nothing is reported here.
-/

namespace CsvSchema

open Text (joinWith)

/-- The outcome of an atomic check. -/
inductive Finding where
  | passed
  | failed (detail : Option String)
  deriving Repr, DecidableEq

namespace Finding

/-- Passed if a condition holds, otherwise failed without a detail. -/
def ofBool (condition : Bool) : Finding := if condition then passed else failed none

/-- Passed if a condition holds, otherwise failed with a detail. -/
def require (condition : Bool) (detail : String) : Finding :=
  if condition then passed else failed (some detail)

end Finding

/-- Whether two texts stand in a relation, the value first. -/
def Relation.holds (value target : String) : Relation → Bool
  | is => value == target
  | isNot => value != target
  | contains => Text.isInfixOf target.toList value.toList
  | startsWith => target.toList.isPrefixOf value.toList
  | endsWith => target.toList.isSuffixOf value.toList

/-- What is said of a value that should have been another one. -/
def expectedText (target : String) : String := "expected \"" ++ target ++ "\""

/-- What is said of a value that does not stand in a relation to a target. -/
def Relation.detail (target : String) : Relation → Option String
  | is => some (expectedText target)
  | _ => none

/-- A comparison with an operand. -/
def findComparison (scope : Scope) (value : String) (relation : Relation) (operand : Operand) :
    Finding :=
  match scope.operand operand with
  | .error e => .failed (some e.message)
  | .ok target =>
      if relation.holds (scope.comparable value) (scope.comparable target) then .passed
      else .failed (relation.detail target)

/-- A comparison with several operands.  The first operand without a text ends it. -/
def findAny (scope : Scope) (value : String) : List Operand → Finding
  | [] => .failed none
  | operand :: rest =>
      match scope.operand operand with
      | .error e => .failed (some e.message)
      | .ok target =>
          if scope.comparable value == scope.comparable target then .passed
          else findAny scope value rest

/-- A question about the texts of three operands. -/
def findDate (scope : Scope) (year month day : Operand)
    (question : String → String → String → Bool) : Finding :=
  match (do return (← scope.operand year, ← scope.operand month, ← scope.operand day)) with
  | .error (e : OperandError) => .failed (some e.message)
  | .ok (year, month, day) => .ofBool (question year month day)

/-- What a value is remembered by. -/
def uniqueKey (scope : Scope) (value : String) (columns : List String) :
    Except OperandError (List String) :=
  if columns.isEmpty then .ok [scope.comparable value]
  else columns.mapM fun column => (scope.field column).map scope.comparable

/-- Whether no earlier record had the same key. -/
def findUnique (scope : Scope) (value : String) (columns : List String) (slot : Nat) :
    StateM Memory Finding :=
  match uniqueKey scope value columns with
  | .error e => return .failed (some e.message)
  | .ok key => return .require (← Memory.isNew slot key) "duplicate value"

/-- Whether the first record had the same value. -/
def findIdentical (scope : Scope) (value : String) (slot : Nat) : StateM Memory Finding := do
  let current := scope.comparable value
  let first ← Memory.firstValue slot current
  return .require (first == current) (expectedText first)

/-- The text of an operand that may be missing. -/
def Scope.operandOr (scope : Scope) (default : String) :
    Option Operand → Except OperandError String
  | some operand => scope.operand operand
  | none => .ok default

/-- Whether a value names a file. -/
def findFile (scope : Scope) (value : String) (folder : Option Operand) :
    StateM Memory Finding :=
  match scope.operandOr "" folder with
  | .error e => return .failed (some e.message)
  | .ok folder => return .ofBool (← scope.locate? (FileText.joined folder value)).isSome

/-- Whether a value is the digest of a file. -/
def findChecksum (scope : Scope) (value : String) (file : Operand) (algorithm : HashAlgorithm) :
    StateM Memory Finding :=
  match scope.operand file with
  | .error e => return .failed (some e.message)
  | .ok text => do
      match ← scope.locate? text with
      | none => return .failed (some ("file " ++ text ++ " not found"))
      | some path =>
          match ← Memory.probe (Probes.digest? scope.environment.storage path algorithm) with
          | none => return .failed (some ("cannot read " ++ text))
          | some digest =>
              let stated := (Text.trim value.toList)
              let stated := if scope.fold then stated.map Char.toLower else stated
              return .require (digest == String.ofList stated)
                (algorithm.name ++ " is " ++ digest)

/-- Whether a value is the number of entries in a listing of the folder `text`. -/
def countFinding (value text : String) : Option (List String) → Finding
  | none => .failed (some ("cannot list " ++ text))
  | some entries =>
      let stated := Decimal.readNatural? Decimal.maxWord64 (Text.trim value.toList)
      .require (stated == some entries.length)
        (text ++ " holds " ++ Decimal.natText entries.length ++ " entries")

/-- Whether a value is the number of entries of a folder. -/
def findCount (scope : Scope) (value : String) (folder : Operand) : StateM Memory Finding :=
  match scope.operand folder with
  | .error e => return .failed (some e.message)
  | .ok text => do
      match ← scope.locate? text with
      | none => return countFinding value text none
      | some path =>
          return countFinding value text
            (← Memory.probe (Probes.list? scope.environment.storage path))

/-- Whether a value names something in a folder that is there, and what it names. -/
def findBelow (scope : Scope) (value : String) (root : Path) (rule : FolderRule) :
    StateM Memory (Except String (List PathPart)) := do
  let text := String.ofList (Text.dropStartRepeatedly "./".toList value.toList)
  let named := FileText.path text
  if text = "" || named.leadsUp then return .error ("not a path below " ++ root.text)
  else
    match ← scope.locate? (root.join named).text with
    | none => return .error "file not found"
    | some found =>
        match root.below? found with
        | some (part :: parts) =>
            if rule = .excludeFolder && scope.environment.storage.isFolder found then
              return .error "is a folder"
            else return .ok (part :: parts)
        | _ => return .error ("outside of " ++ root.text)

/-- Whether a value names something in the folder of an integrity check.  What it names
is remembered; the folder is remembered in any case. -/
def findReference (scope : Scope) (value : String) (folder subfolder : Option Operand)
    (rule : FolderRule) (slot : Nat) : StateM Memory Finding :=
  match (do return (← scope.operandOr "" folder, ← scope.operandOr "content" subfolder)) with
  | .error (e : OperandError) => return .failed (some e.message)
  | .ok (folder, subfolder) => do
      let text := FileText.joined folder subfolder
      match ← scope.locate? text with
      | none => return .failed (some ("folder " ++ text ++ " not found"))
      | some root => do
          let initial : References := ⟨scope.column, scope.severity, rule, .empty⟩
          Memory.refer slot initial root none
          match ← findBelow scope value root rule with
          | .error detail => return .failed (some detail)
          | .ok path => do
              Memory.refer slot initial root (some path)
              return .passed

/-- Decide an atomic check of a value. -/
def Atom.evaluate (scope : Scope) (value : String) : Atom → StateM Memory Finding
  | .value test => return .ofBool (test.accepts scope.fold value)
  | .compare relation operand => return findComparison scope value relation operand
  | .any operands => return findAny scope value operands
  | .composedDate year month day bounds =>
      return findDate scope year month day fun year month day =>
        (Calendar.composeDate? year month day).any bounds.holds
  | .partialDate year month day =>
      return findDate scope year month day Calendar.isPartialDate
  | .unique columns slot => findUnique scope value columns slot
  | .identical slot => findIdentical scope value slot
  | .fileExists folder => findFile scope value folder
  | .integrity folder subfolder rule slot => findReference scope value folder subfolder rule slot
  | .checksum file algorithm => findChecksum scope value file algorithm
  | .fileCount folder => findCount scope value folder

end CsvSchema
