import CsvSchema.Storage.Basic
import CsvSchema.Collection.OrderedMap

/-!
# Storage in memory

A tree of files and folders, held as one entry for each path.  Adding a path adds the folders that
it lies in, and paths with the same parts are the same entry.
-/

namespace CsvSchema

/-- All starts of a list except the empty one, shortest first. -/
def startsOf {α : Type} : List α → List (List α)
  | [] => []
  | x :: rest => [x] :: (startsOf rest).map (x :: ·)

/-- What a path names. -/
inductive StorageEntry where
  | folder
  | file (bytes : List UInt8)
  deriving Repr, DecidableEq

/-- Why a path cannot be listed or read. -/
inductive StorageError where
  | notFound (path : Path)
  | isFolder (path : Path)
  deriving Repr, DecidableEq

/-- What is said of a path that cannot be listed or read. -/
def StorageError.message : StorageError → String
  | notFound path => path.text ++ " not found"
  | isFolder path => path.text ++ " is a directory"

/-- Files and folders by the parts of their paths. -/
structure MemoryStorage where
  entries : OrderedMap (List PathPart) StorageEntry

namespace MemoryStorage

/-- Storage without any entry. -/
def empty : MemoryStorage := ⟨.empty⟩

instance : Inhabited MemoryStorage := ⟨empty⟩

/-- Add a folder and the folders that it lies in.  What is there already stays. -/
def addFolderParts (storage : MemoryStorage) (parts : List PathPart) : MemoryStorage :=
  (startsOf parts).foldl (fun s ancestor => ⟨s.entries.insertNew ancestor .folder⟩) storage

/-- Add a folder. -/
def addFolder (storage : MemoryStorage) (path : Path) : MemoryStorage :=
  storage.addFolderParts path.parts

/-- Add a file and the folders that it lies in, in place of what the path named. -/
def addFile (storage : MemoryStorage) (path : Path) (bytes : List UInt8) : MemoryStorage :=
  let within := match Path.parentParts? path.parts with
    | some parent => storage.addFolderParts parent
    | none => storage
  ⟨within.entries.insert path.parts (.file bytes)⟩

/-- Whether a path names a file or a folder. -/
def has (storage : MemoryStorage) (path : Path) : Bool :=
  (storage.entries.get? path.parts).isSome

/-- Whether a path names a folder. -/
def isFolder (storage : MemoryStorage) (path : Path) : Bool :=
  storage.entries.get? path.parts == some .folder

/-- The names of the entries whose folder has the given parts, in order. -/
def namesIn (storage : MemoryStorage) (folder : List PathPart) : List String :=
  (storage.entries.keys.filter fun key => Path.parentParts? key == some folder).filterMap
    fun key => (Path.lastName? key).map String.ofList

/-- The names in a folder. -/
def list (storage : MemoryStorage) (path : Path) : Except StorageError (List String) :=
  if storage.isFolder path then .ok (storage.namesIn path.parts) else .error (.notFound path)

/-- The bytes of a file. -/
def read (storage : MemoryStorage) (path : Path) : Except StorageError (List UInt8) :=
  match storage.entries.get? path.parts with
  | some (.file bytes) => .ok bytes
  | some .folder => .error (.isFolder path)
  | none => .error (.notFound path)

/-- The number of parts of the longest path. -/
def depth (storage : MemoryStorage) : Nat :=
  storage.entries.keys.foldl (fun longest key => max longest key.length) 0

/-- The answers of storage in memory. -/
def toStorage (storage : MemoryStorage) : Storage where
  has := storage.has
  isFolder := storage.isFolder
  list? path := (storage.list path).toOption
  read? path := (storage.read path).toOption
  depth := storage.depth

end MemoryStorage

end CsvSchema
