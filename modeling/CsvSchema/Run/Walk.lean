import CsvSchema.Run.Memory

/-!
# Walking a folder

All entries below a folder, each by the names that lead to it.  No path in storage is longer than
the storage is deep, so the walk is over after that many levels.

A walk can also keep a list of the folders that it has still to look into, and take one turn after
the other until the list is empty.  Nothing in the list says that it will ever be.
-/

namespace CsvSchema

/-- The path that names lead to inside a folder. -/
def namesPath (names : List (List Char)) : Path := ⟨['/'].intercalate names⟩

mutual

/-- The entries in the folder that `names` lead to below `root`, down to `depth`
levels. -/
def walkFolder (storage : Storage) (root : Path) (withFolders : Bool) :
    Nat → List (List Char) → StateM Memory (List (List (List Char)))
  | 0, _ => return []
  | depth + 1, names => do
      match ← Memory.probe (Probes.list? storage (root.join (namesPath names))) with
      | none => return []
      | some entries => walkEntries storage root withFolders depth names entries

/-- The entries with some names in the folder that `names` lead to, with what they
hold. -/
def walkEntries (storage : Storage) (root : Path) (withFolders : Bool) :
    Nat → List (List Char) → List String → StateM Memory (List (List (List Char)))
  | _, _, [] => return []
  | depth, names, entry :: rest => do
      let entryNames := names ++ [entry.toList]
      let found ←
        if storage.isFolder (root.join (namesPath entryNames)) then do
          let inside ← walkFolder storage root withFolders depth entryNames
          pure (if withFolders then entryNames :: inside else inside)
        else pure [entryNames]
      return found ++ (← walkEntries storage root withFolders depth names rest)

end

/-- Whether one list of names does not come after another one. -/
def namesInOrder (a b : List (List Char)) : Bool := !KeyOrder.before b a

/-- The entries below a folder, in order.  Folders are left out unless they are asked
for, but what they hold is not. -/
def walk (storage : Storage) (root : Path) (withFolders : Bool) :
    StateM Memory (List (List (List Char))) := do
  let found ← walkFolder storage root withFolders (storage.depth + 1) []
  return found.mergeSort namesInOrder

/-- The folders that a walk has still to look into, the next one first, and the entries that it has
found. -/
structure WorkList where
  pending : List Path
  found : List Path
  deriving Repr, DecidableEq

namespace WorkList

/-- The work at the start of a walk, which begins at the folder itself. -/
def start : WorkList := ⟨[⟨[]⟩], []⟩

/-- Take note of an entry of a folder. -/
def note (storage : Storage) (root : Path) (withFolders : Bool) (work : WorkList)
    (entry : Path) : WorkList :=
  if storage.isFolder (root.join entry) then
    ⟨entry :: work.pending, if withFolders then work.found ++ [entry] else work.found⟩
  else ⟨work.pending, work.found ++ [entry]⟩

/-- Look into a folder. -/
def lookInto (storage : Storage) (root : Path) (withFolders : Bool) (work : WorkList)
    (folder : Path) : StateM Memory WorkList := do
  match ← Memory.probe (Probes.list? storage (root.join folder)) with
  | none => return work
  | some names =>
      return names.foldl
        (fun work name => work.note storage root withFolders (folder.join (.ofString name))) work

/-- Look into the next folder, if one is left. -/
def turn (storage : Storage) (root : Path) (withFolders : Bool) (work : WorkList) :
    StateM Memory WorkList :=
  match work.pending with
  | [] => return work
  | folder :: pending => lookInto storage root withFolders { work with pending } folder

/-- Look into some folders, one after the other. -/
def turns (storage : Storage) (root : Path) (withFolders : Bool) :
    Nat → WorkList → StateM Memory WorkList
  | 0, work => return work
  | n + 1, work => do
      let work ← turn storage root withFolders work
      turns storage root withFolders n work

/-- Whether one path does not come after another one. -/
def pathsInOrder (a b : Path) : Bool := !KeyOrder.before b.parts a.parts

/-- The entries that were found, in order. -/
def entries (work : WorkList) : List Path := work.found.mergeSort pathsInOrder

end WorkList

end CsvSchema
