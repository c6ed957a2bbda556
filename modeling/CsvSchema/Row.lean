/-!
# Records by column key

The fields of a record are paired with the column keys by position.  Fields without a key are
dropped, and keys without a field are missing from the row.
-/

namespace CsvSchema

/-- The fields of one record with their column keys, in column order. -/
structure Row where
  fields : List (String × String)
  deriving Repr, DecidableEq

namespace Row

/-- The row of a record. -/
def ofFields (keys fields : List String) : Row := ⟨keys.zip fields⟩

/-- The field of a key.  Of two fields with the same key the later one counts. -/
def get? (row : Row) (key : String) : Option String :=
  (row.fields.reverse.find? (·.1 == key)).map (·.2)

/-- The number of different keys. -/
def size (row : Row) : Nat := (row.fields.map (·.1)).eraseDups.length

/-- Whether a row has no fields. -/
def isEmpty (row : Row) : Bool := row.fields.isEmpty

end Row

end CsvSchema
