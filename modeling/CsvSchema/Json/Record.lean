import CsvSchema.Json.Basic

/-!
# Records in JSON

A record with named fields is written as an object, or as an array of its fields in their order.
Names that the record does not have are ignored, a field that comes twice is refused, and so is an
array with more items than there are fields.
-/

namespace CsvSchema.Json

/-- The values that members give to one name. -/
def valuesOf (name : String) (members : List (List StringUnit × Value)) : List Value :=
  (members.filter fun m => unitsText? m.1 == some name.toList).map (·.2)

/-- The field with a name: absent, or its only value. -/
def fieldOf? (members : List (List StringUnit × Value)) (name : String) : Option (Option Value) :=
  match valuesOf name members with
  | [] => some none
  | [value] => some (some value)
  | _ => none

/-- The fields of a record in the order of their names. -/
def recordFields? (names : List String) : Value → Option (List (Option Value))
  | .object members =>
      if members.all fun m => (unitsText? m.1).isSome then names.mapM (fieldOf? members) else none
  | .array items =>
      if items.length ≤ names.length then
        some (items.map some ++ List.replicate (names.length - items.length) none)
      else none
  | _ => none

/-- The value of an optional field, where null means that it is absent. -/
def optional? {α : Type} (read : Value → Option α) : Option Value → Option (Option α)
  | none => some none
  | some .null => some none
  | some value => (read value).map some

/-- The value of a field that has a default. -/
def defaulted? {α : Type} (default : α) (read : Value → Option α) : Option Value → Option α
  | none => some default
  | some value => read value

end CsvSchema.Json
