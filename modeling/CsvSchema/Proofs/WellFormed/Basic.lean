import CsvSchema.Schema.Basic

/-!
# Well-formed schemas

What may be relied on in a schema that builds: combinations have something to combine, references
have names, bounds are in order, and the settings of the file do not contradict each other.
-/

namespace CsvSchema

/-- Whether a number of units is small enough for a finite number. -/
def Decimal.Binary64.IsFinite (x : Binary64) : Prop := x.units < infinityUnits

/-- If there are two bounds, the lower one is not above the upper one. -/
def Bounds.Ordered {α : Type} [LE α] (bounds : Bounds α) : Prop :=
  ∀ lower ∈ bounds.lower, ∀ upper ∈ bounds.upper, lower ≤ upper

/-- Whether a condition holds of each bound that is there. -/
def Bounds.Each {α : Type} (p : α → Prop) (bounds : Bounds α) : Prop :=
  (∀ lower ∈ bounds.lower, p lower) ∧ ∀ upper ∈ bounds.upper, p upper

theorem Bounds.each_true {α : Type} (bounds : Bounds α) : bounds.Each fun _ => True :=
  ⟨fun _ _ => trivial, fun _ _ => trivial⟩

theorem Bounds.Each.mono {α : Type} {p q : α → Prop} {bounds : Bounds α} (h : bounds.Each p)
    (hpq : ∀ x, p x → q x) : bounds.Each q :=
  ⟨fun x hx => hpq x (h.1 x hx), fun x hx => hpq x (h.2 x hx)⟩

/-- The bounds of a test are in order, and those of a range are finite numbers. -/
def ValueTest.WellFormed : ValueTest → Prop
  | range bounds => bounds.Ordered ∧ bounds.Each Decimal.Binary64.IsFinite
  | length (.between bounds) => bounds.Ordered
  | dateTime bounds => bounds.Ordered
  | zonedDateTime bounds => bounds.Ordered
  | date bounds => bounds.Ordered
  | time bounds => bounds.Ordered
  | ukDate bounds => bounds.Ordered
  | _ => True

/-- All references in an operand have names, and nothing is put together from no parts. -/
inductive Operand.WellFormed : Operand → Prop
  | column {name : String} (h : name ≠ "") : WellFormed (.column name)
  | literal (text : String) : WellFormed (.literal text)
  | provided {inner : Operand} (h : WellFormed inner) : WellFormed (.provided inner)
  | concat {parts : List Operand} (hne : parts ≠ []) (h : ∀ part ∈ parts, WellFormed part) :
      WellFormed (.concat parts)
  | noExtension {inner : Operand} (h : WellFormed inner) : WellFormed (.noExtension inner)
  | uriDecode {value : Operand} {encoding : Option Operand} (hvalue : WellFormed value)
      (hencoding : ∀ operand ∈ encoding, WellFormed operand) :
      WellFormed (.uriDecode value encoding)
  | file {folder : Option Operand} {file : Operand}
      (hfolder : ∀ operand ∈ folder, WellFormed operand) (hfile : WellFormed file) :
      WellFormed (.file folder file)

/-- What an atomic check is configured with is well formed. -/
def Atom.WellFormed : Atom → Prop
  | value test => test.WellFormed
  | compare _ operand => operand.WellFormed
  | any operands => operands ≠ [] ∧ ∀ operand ∈ operands, operand.WellFormed
  | composedDate year month day bounds =>
      year.WellFormed ∧ month.WellFormed ∧ day.WellFormed ∧ bounds.Ordered
  | partialDate year month day => year.WellFormed ∧ month.WellFormed ∧ day.WellFormed
  | unique columns _ => ∀ name ∈ columns, name ≠ ""
  | identical _ => True
  | fileExists folder => ∀ operand ∈ folder, operand.WellFormed
  | integrity folder subfolder _ _ =>
      (∀ operand ∈ folder, operand.WellFormed) ∧ ∀ operand ∈ subfolder, operand.WellFormed
  | checksum file _ => file.WellFormed
  | fileCount folder => folder.WellFormed

mutual

/-- A check is well formed with all checks in it: no clause is empty, `or` and `and` have at least
two parts, and a switch has a case. -/
inductive Check.WellFormed : Check → Prop
  | atom {atom : Atom} (h : atom.WellFormed) : Check.WellFormed (.atom atom)
  | or {checks : List Check} (hlength : 2 ≤ checks.length)
      (h : ∀ check ∈ checks, Check.WellFormed check) : Check.WellFormed (.or checks)
  | and {checks : List Check} (hlength : 2 ≤ checks.length)
      (h : ∀ check ∈ checks, Check.WellFormed check) : Check.WellFormed (.and checks)
  | conditional {condition : Check} {clause : List Check} {otherwise : Option (List Check)}
      (hcondition : Check.WellFormed condition)
      (hclause : clause ≠ []) (hchecks : ∀ check ∈ clause, Check.WellFormed check)
      (hotherwise : ∀ checks ∈ otherwise, checks ≠ [])
      (hothers : ∀ checks ∈ otherwise, ∀ check ∈ checks, Check.WellFormed check) :
      Check.WellFormed (.conditional condition clause otherwise)
  | switch {cases : List SwitchCase} {otherwise : Option (List Check)} (hne : cases ≠ [])
      (hcases : ∀ switchCase ∈ cases, SwitchCase.WellFormed switchCase)
      (hotherwise : ∀ checks ∈ otherwise, checks ≠ [])
      (hothers : ∀ checks ∈ otherwise, ∀ check ∈ checks, Check.WellFormed check) :
      Check.WellFormed (.switch cases otherwise)
  | parenthesized {checks : List Check} (hne : checks ≠ [])
      (h : ∀ check ∈ checks, Check.WellFormed check) : Check.WellFormed (.parenthesized checks)
  | single {column : Option String} {check : Check} (hcolumn : ∀ name ∈ column, name ≠ "")
      (h : Check.WellFormed check) : Check.WellFormed (.single column check)

/-- A case is well formed with its condition and its clause. -/
inductive SwitchCase.WellFormed : SwitchCase → Prop
  | mk {condition : Check} {clause : List Check} (hcondition : Check.WellFormed condition)
      (hclause : clause ≠ []) (hchecks : ∀ check ∈ clause, Check.WellFormed check) :
      SwitchCase.WellFormed (.mk condition clause)

end

/-- All checks of a rule are well formed. -/
def ColumnRule.WellFormed (rule : ColumnRule) : Prop := ∀ check ∈ rule.checks, check.WellFormed

/-- A column has a name and a rule that is well formed. -/
structure ColumnDefinition.WellFormed (column : ColumnDefinition) : Prop where
  name : column.name ≠ ""
  rule : column.rule.WellFormed

/-- Whether a character can stand between two fields: it is an ASCII character that ends no line. -/
def IsSeparator (mark : Char) : Prop := mark.toNat < 128 ∧ mark ≠ '\n' ∧ mark ≠ '\r'

/-- The settings of a file make sense together. -/
structure FileSettings.WellFormed (settings : FileSettings) : Prop where
  separator : IsSeparator settings.separator
  totalColumns : ∀ total ∈ settings.totalColumns, 1 ≤ total
  /-- Without a header there are no names whose case could be ignored. -/
  header : ¬(settings.noHeader = true ∧ settings.ignoreColumnNameCase = true)

/-- A schema is well formed with its settings and its columns, of which no two have the same key. -/
structure Schema.WellFormed (schema : Schema) : Prop where
  settings : schema.settings.WellFormed
  columns : ∀ column ∈ schema.columns, column.WellFormed
  keys : schema.columnKeys.Nodup

end CsvSchema
