import CsvSchema.Run.Session
import CsvSchema.Run.Walk

/-!
# Completeness of references

At the end of a run everything in a folder that an integrity check looked at has to have been named
by some record.  The messages go to the last record.
-/

namespace CsvSchema

namespace Session

/-- What is said of an entry that no record named. -/
def unreferencedText (column : String) (entry root : Path) : String :=
  "integrityCheck fails for column: " ++ column ++ ", " ++ entry.text ++ " under " ++ root.text ++
    " is not referenced"

/-- Report the entries of a folder that no record named. -/
def reportFolder (storage : Storage) (references : References) (root : Path)
    (named : List (List PathPart)) : StateM Session Bool := fun session =>
  let (entries, memory) := walk storage root (references.rule == .includeFolder) session.memory
  let missing := entries.filter fun entry => !named.contains (entry.map .name)
  let messages := missing.map fun entry =>
    unreferencedText references.column (namesPath entry) root
  (missing.isEmpty || references.severity == .warning,
    { session with memory }.pushAll references.severity messages)

/-- Report what the records did not name in the folders of an integrity check. -/
def reportReferences (storage : Storage) (references : References) : StateM Session Bool := do
  modify fun session => { session with column := references.column }
  let outcomes ← references.roots.entries.mapM fun root =>
    reportFolder storage references root.2.1 root.2.2
  return outcomes.all id

/-- The end of a run. -/
def finish (storage : Storage) : StateM Session Bool := do
  let taken ← remembering Memory.takeReferences
  let outcomes ← taken.mapM (reportReferences storage)
  return outcomes.all id

end Session

end CsvSchema
