import CsvSchema.Storage.Memory

/-!
# Storage below a working folder

On a disk a path is followed segment by segment from the working folder: everything before a slash
has to be a folder that is there, and a segment that leads up undoes the one before it.  Only what
lies below the working folder is known, so absolute paths and paths that lead out of it name
nothing.
-/

namespace CsvSchema

/-- Files and folders by the names that lead to them from the working folder. -/
structure DiskStorage where
  entries : OrderedMap (List (List Char)) StorageEntry

namespace DiskStorage

/-- A working folder without any entry. -/
def empty : DiskStorage := ⟨.empty⟩

instance : Inhabited DiskStorage := ⟨empty⟩

/-- What some names lead to.  No names lead to the working folder itself. -/
def at? (disk : DiskStorage) (names : List (List Char)) : Option StorageEntry :=
  if names = [] then some .folder else disk.entries.get? names

/-- Follow segments from `names`. -/
def follow? (disk : DiskStorage) : List (List Char) → List (List Char) → Option (List (List Char))
  | names, [] => if (disk.at? names).isSome then some names else none
  | names, segment :: rest =>
      if disk.at? names = some .folder then
        match PathPart.ofSegment? segment with
        | some .up => if names = [] then none else disk.follow? names.dropLast rest
        | some (.name name) => disk.follow? (names ++ [name]) rest
        | _ => disk.follow? names rest
      else none

/-- The names that a path leads to. -/
def locate? (disk : DiskStorage) (path : Path) : Option (List (List Char)) :=
  if path.chars = [] || path.isAbsolute then none
  else disk.follow? [] (Text.splitOn '/' path.chars)

/-- What a path names. -/
def entry? (disk : DiskStorage) (path : Path) : Option StorageEntry :=
  (disk.locate? path).bind disk.at?

/-- The names in the folder that some names lead to, in order. -/
def namesIn (disk : DiskStorage) (folder : List (List Char)) : List String :=
  (disk.entries.keys.filter fun key => key ≠ [] && key.dropLast == folder).filterMap
    fun key => key.getLast?.map String.ofList

/-- The names in a folder. -/
def list? (disk : DiskStorage) (path : Path) : Option (List String) :=
  (disk.locate? path).bind fun names =>
    if disk.at? names = some .folder then some (disk.namesIn names) else none

/-- The bytes of a file. -/
def read? (disk : DiskStorage) (path : Path) : Option (List UInt8) :=
  match disk.entry? path with
  | some (.file bytes) => some bytes
  | _ => none

/-- The names that the parts of a relative path lead to. -/
def namesOf (path : Path) : List (List Char) :=
  path.parts.foldl (fun names part =>
    match part with
    | .name name => names ++ [name]
    | .up => names.dropLast
    | _ => names) []

/-- Add folders along some names. -/
def addFolders (disk : DiskStorage) (names : List (List Char)) : DiskStorage :=
  (startsOf names).foldl (fun d key => ⟨d.entries.insertNew key .folder⟩) disk

/-- Add a folder and the folders that it lies in. -/
def addFolder (disk : DiskStorage) (path : Path) : DiskStorage := disk.addFolders (namesOf path)

/-- Add a file and the folders that it lies in. -/
def addFile (disk : DiskStorage) (path : Path) (bytes : List UInt8) : DiskStorage :=
  let names := namesOf path
  ⟨(disk.addFolders names.dropLast).entries.insert names (.file bytes)⟩

/-- The number of names that lead to the deepest entry. -/
def depth (disk : DiskStorage) : Nat :=
  disk.entries.keys.foldl (fun longest key => max longest key.length) 0

/-- The answers of a disk. -/
def toStorage (disk : DiskStorage) : Storage where
  has path := (disk.locate? path).isSome
  isFolder path := disk.entry? path == some .folder
  list? := disk.list?
  read? := disk.read?
  depth := disk.depth

end DiskStorage

end CsvSchema
