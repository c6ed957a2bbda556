import CsvSchema.Run.Probe
import CsvSchema.Collection.OrderedMap
import CsvSchema.Schema.Check

/-!
# The memory of a run

Checks that depend on earlier records keep what they have seen in a slot of their own.  The answers
about files are shared by all checks.
-/

namespace CsvSchema

/-- The files that records named in the folders of one integrity check. -/
structure References where
  /-- The column that the check belongs to. -/
  column : String
  severity : Severity
  rule : FolderRule
  /-- The folders with the paths in them that were named.  The first spelling of a
  folder is the one that is shown. -/
  roots : OrderedMap (List PathPart) (Path × List (List PathPart))

/-- What one check remembers. -/
inductive SlotMemory where
  | seen (keys : List (List String))
  | first (value : String)
  | references (references : References)

/-- What a run remembers. -/
structure Memory where
  slots : OrderedMap Nat SlotMemory
  probes : Probes

namespace Memory

/-- The memory of a run at its start. -/
def start (memoize : Bool) : Memory := ⟨.empty, .start memoize⟩

/-- Ask about files. -/
def probe {α : Type} (question : StateM Probes α) : StateM Memory α := fun memory =>
  let (answer, probes) := question memory.probes
  (answer, { memory with probes })

/-- Set the memory of a slot. -/
def setSlot (memory : Memory) (slot : Nat) (content : SlotMemory) : Memory :=
  { memory with slots := memory.slots.insert slot content }

/-- Use a slot: what is in it decides on the answer and on what is in it from then on. -/
def useSlot {α : Type} (slot : Nat) (use : Option SlotMemory → α × SlotMemory) :
    StateM Memory α := fun memory =>
  let (answer, content) := use (memory.slots.get? slot)
  (answer, memory.setSlot slot content)

/-- What is in a slot after it was used. -/
theorem get?_useSlot {α : Type} (slot : Nat) (use : Option SlotMemory → α × SlotMemory)
    (memory : Memory) (x : Nat) :
    (useSlot slot use memory).2.slots.get? x =
      if x = slot then some (use (memory.slots.get? slot)).2 else memory.slots.get? x :=
  OrderedMap.get?_insert memory.slots slot _ x

/-- Whether a key comes for the first time. -/
def isNew (slot : Nat) (key : List String) : StateM Memory Bool :=
  useSlot slot fun content =>
    match content with
    | some (.seen keys) =>
        if keys.contains key then (false, .seen keys) else (true, .seen (key :: keys))
    | _ => (true, .seen [key])

/-- The first value that came. -/
def firstValue (slot : Nat) (value : String) : StateM Memory String :=
  useSlot slot fun content =>
    match content with
    | some (.first first) => (first, .first first)
    | _ => (value, .first value)

/-- Add a path to those that were named, once. -/
def addPath (path : Option (List PathPart)) (paths : List (List PathPart)) :
    List (List PathPart) :=
  match path with
  | some path => if paths.contains path then paths else path :: paths
  | none => paths

/-- Note that a folder is checked, and perhaps a path in it that was named. -/
def References.add (references : References) (root : Path) (path : Option (List PathPart)) :
    References :=
  { references with
    roots := references.roots.alter root.parts (root, []) fun folder =>
      (folder.1, addPath path folder.2) }

/-- Note that an integrity check looked at a folder, and perhaps found a path in it.
`initial` is what the check remembers before it has looked at any. -/
def refer (slot : Nat) (initial : References) (root : Path) (path : Option (List PathPart)) :
    StateM Memory Unit :=
  useSlot slot fun content =>
    let references := match content with
      | some (.references references) => references
      | _ => initial
    ((), .references (References.add references root path))

/-- The references in a slot. -/
def referencesOf? : SlotMemory → Option References
  | .references references => some references
  | _ => none

/-- Take the references out of all slots, in the order of the slots. -/
def takeReferences : StateM Memory (List References) := fun memory =>
  (memory.slots.entries.filterMap fun entry => referencesOf? entry.2,
    { memory with slots := memory.slots.filter fun content => (referencesOf? content).isNone })

end Memory

end CsvSchema
