import CsvSchema.Schema.Basic

/-!
# The atomic checks in a schema

All atomic checks in a check, in the order in which they stand in its text.
-/

namespace CsvSchema

mutual

/-- The atomic checks in a check. -/
def Check.atoms : Check → List Atom
  | .atom atom => [atom]
  | .or checks => checkAtoms checks
  | .and checks => checkAtoms checks
  | .parenthesized checks => checkAtoms checks
  | .conditional condition clause otherwise =>
      condition.atoms ++ checkAtoms clause ++ otherwiseAtoms otherwise
  | .switch cases otherwise => caseAtoms cases ++ otherwiseAtoms otherwise
  | .single _ check => check.atoms

/-- The atomic checks in some checks. -/
def checkAtoms : List Check → List Atom
  | [] => []
  | check :: rest => check.atoms ++ checkAtoms rest

/-- The atomic checks in a clause that may be missing. -/
def otherwiseAtoms : Option (List Check) → List Atom
  | none => []
  | some checks => checkAtoms checks

/-- The atomic checks in some cases. -/
def caseAtoms : List SwitchCase → List Atom
  | [] => []
  | .mk condition clause :: rest => condition.atoms ++ checkAtoms clause ++ caseAtoms rest

end

/-- The atomic checks in the rules of some columns. -/
def columnAtoms (columns : List ColumnDefinition) : List Atom :=
  columns.flatMap fun column => checkAtoms column.rule.checks

end CsvSchema
