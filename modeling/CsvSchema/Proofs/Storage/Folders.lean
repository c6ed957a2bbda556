import Mathlib.Data.List.Induction
import CsvSchema.Storage.Memory
import CsvSchema.Proofs.Storage.Paths

/-!
# Storage that is built from files and folders

Storage in memory is made by adding files and folders to an empty one.  Whatever is added, the names
in its paths are plain, and there is no folder without a name; so a folder lists the names that lead
to what is in it, each of them once.
-/

namespace CsvSchema

theorem mem_startsOf_iff {α : Type} {parts start : List α} :
    start ∈ startsOf parts ↔ start ≠ [] ∧ start <+: parts := by
  induction parts generalizing start with
  | nil =>
      rw [List.prefix_nil]
      simp [startsOf]
  | cons x rest ih =>
      cases start with
      | nil => simp [startsOf]
      | cons y start =>
          simp only [startsOf, List.mem_cons, List.mem_map, List.cons_prefix_cons, ih, ne_eq,
            reduceCtorEq, not_false_eq_true, true_and, List.cons.injEq]
          constructor
          · rintro (⟨rfl, rfl⟩ | ⟨tail, ⟨-, htail⟩, rfl, rfl⟩)
            · exact ⟨rfl, List.nil_prefix⟩
            · exact ⟨rfl, htail⟩
          · rintro ⟨rfl, htail⟩
            by_cases hempty : start = []
            · exact .inl ⟨rfl, hempty⟩
            · exact .inr ⟨start, ⟨hempty, htail⟩, rfl, rfl⟩

theorem Path.eq_append_of_parentParts? {parts parent : List PathPart} {text : List Char}
    (hparent : parentParts? parts = some parent) (hname : lastName? parts = some text) :
    parts = parent ++ [.name text] := by
  unfold lastName? at hname
  split at hname
  · rename_i last hlast
    cases hname
    simp only [parentParts?, hlast, Option.some.injEq] at hparent
    obtain ⟨front, rfl⟩ := List.getLast?_eq_some_iff.1 hlast
    rw [← hparent, List.dropLast_concat]
  · cases hname

namespace MemoryStorage

/-- Storage that is made by adding folders and files. -/
inductive Built : MemoryStorage → Prop
  | empty : Built empty
  | folder {storage : MemoryStorage} (h : Built storage) (path : Path) :
      Built (storage.addFolder path)
  | file {storage : MemoryStorage} (h : Built storage) (path : Path) (bytes : List UInt8) :
      Built (storage.addFile path bytes)

/-- A call that adds to a storage. -/
inductive Addition where
  | folder (path : Path)
  | file (path : Path) (bytes : List UInt8)
  deriving Repr, DecidableEq

/-- The storage after a call. -/
def add (storage : MemoryStorage) : Addition → MemoryStorage
  | .folder path => storage.addFolder path
  | .file path bytes => storage.addFile path bytes

/-- The storage that some calls make. -/
def ofAdditions (additions : List Addition) : MemoryStorage := additions.foldl add empty

theorem ofAdditions_concat (additions : List Addition) (addition : Addition) :
    ofAdditions (additions ++ [addition]) = (ofAdditions additions).add addition := by
  simp [ofAdditions]

theorem built_ofAdditions (additions : List Addition) : Built (ofAdditions additions) := by
  induction additions using List.reverseRecOn with
  | nil => exact .empty
  | append_singleton additions addition ih =>
      rw [ofAdditions_concat]
      cases addition with
      | folder path => exact .folder ih path
      | file path bytes => exact .file ih path bytes

/-- All names in the paths of a storage are names, and what has no name is no folder. -/
structure Plain (storage : MemoryStorage) : Prop where
  names : ∀ key entry, storage.entries.get? key = some entry →
    ∀ text, PathPart.name text ∈ key → IsName text
  unnamed : storage.entries.get? [] ≠ some .folder

namespace Plain

variable {storage : MemoryStorage}

theorem insertNew (h : Plain storage) {parts : List PathPart} (hne : parts ≠ [])
    (hnames : ∀ text, PathPart.name text ∈ parts → IsName text) :
    Plain ⟨storage.entries.insertNew parts .folder⟩ where
  names key entry hentry := by
    rw [OrderedMap.insertNew, OrderedMap.get?_alter] at hentry
    split at hentry
    · rename_i hkey
      rw [hkey]
      exact hnames
    · exact h.names key entry hentry
  unnamed := by
    rw [OrderedMap.insertNew, OrderedMap.get?_alter, if_neg hne.symm]
    exact h.unnamed

theorem addFolderParts (h : Plain storage) {parts : List PathPart}
    (hnames : ∀ text, PathPart.name text ∈ parts → IsName text) :
    Plain (storage.addFolderParts parts) := by
  have hstarts : ∀ starts : List (List PathPart), (∀ start ∈ starts, start ∈ startsOf parts) →
      ∀ storage : MemoryStorage, Plain storage → Plain (starts.foldl
        (fun s ancestor => ⟨s.entries.insertNew ancestor .folder⟩) storage) := by
    intro starts
    induction starts with
    | nil => exact fun _ storage h => h
    | cons start rest ih =>
        intro hmem storage h
        obtain ⟨hstart, hrest⟩ := List.forall_mem_cons.1 hmem
        obtain ⟨hne, hbegins⟩ := mem_startsOf_iff.1 hstart
        exact ih hrest _ (h.insertNew hne fun text htext => hnames text (hbegins.subset htext))
  exact hstarts (startsOf parts) (fun _ hmem => hmem) storage h

theorem addFile (h : Plain storage) (path : Path) (bytes : List UInt8) :
    Plain (storage.addFile path bytes) := by
  have hnames : ∀ text, PathPart.name text ∈ path.parts → IsName text :=
    fun text htext => Path.isName_of_mem_parts htext
  have hinsert : ∀ within : MemoryStorage, Plain within →
      Plain ⟨within.entries.insert path.parts (.file bytes)⟩ := by
    intro within hwithin
    refine ⟨fun key entry hentry => ?_, ?_⟩
    · rw [OrderedMap.get?_insert] at hentry
      split at hentry
      · rename_i hkey
        rw [hkey]
        exact hnames
      · exact hwithin.names key entry hentry
    · rw [OrderedMap.get?_insert]
      split
      · simp
      · exact hwithin.unnamed
  unfold MemoryStorage.addFile
  refine hinsert _ ?_
  cases hparent : Path.parentParts? path.parts with
  | none => exact h
  | some parent =>
      -- The folders above are named by the beginning of the path.
      refine h.addFolderParts fun text htext => hnames text ?_
      unfold Path.parentParts? at hparent
      split at hparent
      · cases hparent
      · cases hparent
      · cases hparent
        exact path.parts.dropLast_subset htext

end Plain

theorem Built.plain {storage : MemoryStorage} (h : Built storage) : Plain storage := by
  induction h with
  | empty =>
      refine ⟨fun key entry hentry => ?_, ?_⟩
      · cases hentry
      · simp [MemoryStorage.empty]
  | folder _ path ih => exact ih.addFolderParts fun text htext => Path.isName_of_mem_parts htext
  | file _ path bytes ih => exact ih.addFile path bytes

/-- What has no text is no folder. -/
theorem Plain.ne_nil_of_isFolder {storage : MemoryStorage} (h : Plain storage) {path : Path}
    (hfolder : storage.isFolder path = true) : path.chars ≠ [] := by
  intro hempty
  obtain rfl : path = ⟨[]⟩ := congrArg Path.mk hempty
  exact h.unnamed (beq_iff_eq.1 hfolder)

theorem has_of_isFolder {storage : MemoryStorage} {path : Path}
    (h : storage.isFolder path = true) : storage.has path = true := by
  simp only [isFolder, beq_iff_eq] at h
  simp only [has, h, Option.isSome_some]

section Entries

variable (storage : MemoryStorage) (root : Path)

/-- What some parts lead to below a folder. -/
def entryBelow? (parts : List PathPart) : Option StorageEntry :=
  storage.entries.get? (root.parts ++ parts)

/-- `entry` is in `folder`, or in a folder below it that is reached through folders. -/
inductive Reached : List (List Char) → List (List Char) → Prop
  | listed {folder : List (List Char)} {name : List Char}
      (hfolder : storage.entryBelow? root (Path.nameParts folder) = some .folder)
      (hentry : (storage.entryBelow? root (Path.nameParts (folder ++ [name]))).isSome = true) :
      Reached folder (folder ++ [name])
  | inside {folder entry : List (List Char)} {name : List Char}
      (hfolder : storage.entryBelow? root (Path.nameParts folder) = some .folder)
      (hentry : Reached (folder ++ [name]) entry) : Reached folder entry

variable {storage root}

/-- What is reached from a folder begins with the names that lead to the folder. -/
theorem Reached.exists_eq_append {folder entry : List (List Char)}
    (h : Reached storage root folder entry) : ∃ name rest, entry = folder ++ name :: rest := by
  induction h with
  | @listed folder name _ _ => exact ⟨name, [], rfl⟩
  | @inside folder entry name _ _ ih =>
      obtain ⟨next, rest, rfl⟩ := ih
      exact ⟨name, next :: rest, by simp⟩

theorem Reached.isSome {folder entry : List (List Char)} (h : Reached storage root folder entry) :
    (storage.entryBelow? root (Path.nameParts entry)).isSome = true := by
  induction h with
  | listed _ hentry => exact hentry
  | inside _ _ ih => exact ih

theorem reached_iff {folder entry : List (List Char)}
    (hfolder : storage.entryBelow? root (Path.nameParts folder) = some .folder) :
    Reached storage root folder entry ↔
      ∃ name, (storage.entryBelow? root (Path.nameParts (folder ++ [name]))).isSome = true ∧
        (entry = folder ++ [name] ∨ Reached storage root (folder ++ [name]) entry) := by
  constructor
  · intro h
    cases h with
    | listed _ hentry => exact ⟨_, hentry, .inl rfl⟩
    | @inside _ _ name _ hentry =>
        refine ⟨name, ?_, .inr hentry⟩
        cases hentry with
        | listed hfolder' _ => rw [hfolder']; rfl
        | inside hfolder' _ => rw [hfolder']; rfl
  · rintro ⟨name, hsome, rfl | hentry⟩
    · exact .listed hfolder hsome
    · exact .inside hfolder hentry

end Entries

section Listing

variable {storage : MemoryStorage}

theorem mem_keys_iff {key : List PathPart} :
    key ∈ storage.entries.keys ↔ (storage.entries.get? key).isSome = true := by
  rw [OrderedMap.keys, List.mem_map, Option.isSome_iff_exists]
  constructor
  · rintro ⟨⟨_, entry⟩, hmem, rfl⟩
    exact ⟨entry, (OrderedMap.get?_eq_some_iff _ _ _).2 hmem⟩
  · rintro ⟨entry, hentry⟩
    exact ⟨(key, entry), (OrderedMap.get?_eq_some_iff _ _ _).1 hentry, rfl⟩

/-- A folder lists what its parts and one more name lead to. -/
theorem mem_namesIn_iff {folder : List PathPart} {name : String} :
    name ∈ storage.namesIn folder ↔
      (storage.entries.get? (folder ++ [.name name.toList])).isSome = true := by
  simp only [namesIn, List.mem_filterMap, List.mem_filter, beq_iff_eq, mem_keys_iff]
  constructor
  · rintro ⟨key, ⟨hkey, hparent⟩, hname⟩
    obtain ⟨text, htext, rfl⟩ := Option.map_eq_some_iff.1 hname
    rw [String.toList_ofList, ← Path.eq_append_of_parentParts? hparent htext]
    exact hkey
  · intro h
    refine ⟨_, ⟨h, ?_⟩, ?_⟩
    · simp [Path.parentParts?]
    · simp [Path.lastName?]

/-- The names in a folder strictly increase, because the keys do, and what leads to the folder is
the same in all of them. -/
theorem pairwise_namesIn (storage : MemoryStorage) (folder : List PathPart) :
    (storage.namesIn folder).Pairwise fun a b => KeyOrder.before a b = true := by
  refine List.pairwise_filterMap.2 ((storage.entries.pairwise_keys.filter _).imp_of_mem ?_)
  intro key other hkey hother hbefore name hname name' hname'
  simp only [List.mem_filter, beq_iff_eq] at hkey hother
  obtain ⟨text, htext, rfl⟩ := Option.map_eq_some_iff.1 hname
  obtain ⟨text', htext', rfl⟩ := Option.map_eq_some_iff.1 hname'
  rw [Path.eq_append_of_parentParts? hkey.2 htext,
    Path.eq_append_of_parentParts? hother.2 htext'] at hbefore
  have hparts := (Path.listBefore_append_left folder _ _).symm.trans hbefore
  simp only [KeyOrder.listBefore, Bool.and_false, Bool.or_false, Path.before_name] at hparts
  change KeyOrder.before (String.ofList text).toList (String.ofList text').toList = true
  rw [String.toList_ofList, String.toList_ofList]
  exact hparts

theorem nodup_namesIn (storage : MemoryStorage) (folder : List PathPart) :
    (storage.namesIn folder).Nodup :=
  (pairwise_namesIn storage folder).imp KeyOrder.ne_of_before

/-- No path is longer than the storage is deep. -/
theorem length_le_depth {key : List PathPart} (h : (storage.entries.get? key).isSome = true) :
    key.length ≤ storage.depth := by
  have hfold : ∀ (keys : List (List PathPart)) (longest : Nat),
      longest ≤ keys.foldl (fun longest key => max longest key.length) longest ∧
        ∀ key ∈ keys, key.length ≤
          keys.foldl (fun longest key => max longest key.length) longest := by
    intro keys
    induction keys with
    | nil => simp
    | cons first rest ih =>
        intro longest
        obtain ⟨hlongest, hrest⟩ := ih (max longest first.length)
        rw [List.foldl_cons]
        refine ⟨by omega, List.forall_mem_cons.2 ⟨by omega, hrest⟩⟩
  exact (hfold storage.entries.keys 0).2 key (mem_keys_iff.2 h)

end Listing

end MemoryStorage

end CsvSchema
