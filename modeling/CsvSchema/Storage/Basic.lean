import CsvSchema.Path
import CsvSchema.Text.Case

/-!
# Storage

Rules about files ask four questions: whether a path names anything, whether it names a folder,
which names a folder holds, and which bytes a file holds.  Anything that answers them can be
checked against, and looking a path up without regard to letter case needs nothing more.
-/

namespace CsvSchema

/-- What the rules about files ask. -/
structure Storage where
  /-- Whether a path names a file or a folder. -/
  has : Path → Bool
  /-- Whether a path names a folder. -/
  isFolder : Path → Bool
  /-- The names in a folder, in order. -/
  list? : Path → Option (List String)
  /-- The bytes of a file. -/
  read? : Path → Option (List UInt8)
  /-- No folder lies deeper than this below another one. -/
  depth : Nat

namespace Storage

/-- Where a part of a path leads from `found`, whatever its letter case. -/
def stepCaseless? (storage : Storage) (found : Path) : PathPart → Option Path
  | .name name =>
      let exact := found.join ⟨name⟩
      if storage.has exact then some exact
      else
        let folder := if found.chars = [] then ⟨['.']⟩ else found
        (storage.list? folder).bind fun entries =>
          (entries.find? fun entry => Text.lower entry.toList == Text.lower name).map fun entry =>
            found.join (.ofString entry)
  | part => some (found.join ⟨part.chars⟩)

/-- A path that exists and differs from `path` in letter case only. -/
def resolveCaseless? (storage : Storage) (path : Path) : Option Path :=
  if storage.has path then some path
  else path.parts.foldlM storage.stepCaseless? ⟨[]⟩

end Storage

end CsvSchema
