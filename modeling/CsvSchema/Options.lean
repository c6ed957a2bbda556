import CsvSchema.Path
import CsvSchema.Json.Reader
import CsvSchema.Json.Record

/-!
# Options of a run

What the caller of a run decides, as opposed to the schema.
-/

namespace CsvSchema

/-- The settings of a run. -/
structure Options where
  /-- Whether texts are compared without regard to case in every column. -/
  ignoreCase : Bool
  /-- Whether answers about files are remembered until the end of the run. -/
  memoize : Bool
  /-- The folder that relative paths start from. -/
  baseFolder : Option Path
  deriving Repr, DecidableEq

namespace Options

/-- The options of a caller who decides nothing. -/
def initial : Options := ⟨false, true, none⟩

/-- Where a path leads: a relative one starts from the base folder. -/
def resolve (options : Options) (path : Path) : Path :=
  match options.baseFolder with
  | some base => base.join path
  | none => path

/-- The names of the options in JSON. -/
def fieldNames : List String := ["ignore_case", "memoize_filesystem", "base_dir"]

/-- Options from a JSON value, where each may be missing. -/
def ofJson? (value : Json.Value) : Option Options :=
  match Json.recordFields? fieldNames value with
  | some [ignoreCase, memoize, baseFolder] =>
      match Json.defaulted? initial.ignoreCase Json.Value.bool? ignoreCase,
          Json.defaulted? initial.memoize Json.Value.bool? memoize,
          Json.optional? Json.Value.text? baseFolder with
      | some ignoreCase, some memoize, some baseFolder =>
          some ⟨ignoreCase, memoize, baseFolder.map Path.ofString⟩
      | _, _, _ => none
  | _ => none

/-- Options from a JSON text. -/
def read? (text : String) : Option Options := (Json.read? text).bind ofJson?

end Options

end CsvSchema
