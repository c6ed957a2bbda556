import Mathlib.Data.List.Nodup
import CsvSchema.Proofs.Storage.Folders

/-!
# When storage is a tree

Storage in memory is one map from paths to entries, so nothing but the calls that fill it makes it a
tree.  What is there after some calls, and of which kind, is said by the calls alone
(`isSome_get?_ofAdditions`, `get?_ofAdditions_eq_folder_iff`), in whatever order they came.  A call
that adds something below a file leaves the file where it is, and a call that adds a file leaves
what was below a folder where it is; if there is no such pair of calls, and only then, the storage
is a tree, `isTree_ofAdditions_iff`.
-/

namespace CsvSchema

/-- Whether a path leads to another one: its parts are the first parts of the other one. -/
def Path.IsAbove (above p : Path) : Prop :=
  above.parts ≠ [] ∧ above.parts <+: p.parts ∧ above.parts ≠ p.parts

instance (above p : Path) : Decidable (above.IsAbove p) :=
  inferInstanceAs (Decidable (_ ∧ _ ∧ _))

/-- Whether a path names the folder that holds another one. -/
def Path.Holds (folder p : Path) : Prop :=
  folder.parts ≠ [] ∧ Path.parentParts? p.parts = some folder.parts

namespace Path

theorem exists_eq_append_of_holds {folder p : Path} (h : folder.Holds p) :
    ∃ last, p.parts = folder.parts ++ [last] := by
  obtain ⟨-, hparent⟩ := h
  rcases List.eq_nil_or_concat p.parts with hp | ⟨front, last, hp⟩
  · simp [hp, parentParts?] at hparent
  · rw [List.concat_eq_append] at hp
    refine ⟨last, hp.trans ?_⟩
    unfold parentParts? at hparent
    split at hparent
    · cases hparent
    · cases hparent
    · rw [← Option.some.inj hparent, hp, List.dropLast_concat]

/-- A folder is above what it holds. -/
theorem Holds.isAbove {folder p : Path} (h : folder.Holds p) : folder.IsAbove p := by
  obtain ⟨last, hp⟩ := exists_eq_append_of_holds h
  exact ⟨h.1, hp ▸ List.prefix_append _ _, by simp [hp]⟩

/-- What a folder holds has a name, unless it leads up. -/
theorem exists_lastName?_of_holds {folder p : Path} (h : folder.Holds p)
    (hup : PathPart.up ∉ p.parts) :
    ∃ name, lastName? p.parts = some name ∧ p.parts = folder.parts ++ [.name name] := by
  obtain ⟨last, hp⟩ := exists_eq_append_of_holds h
  rcases eq_nil_or_inner hp with hempty | rfl | ⟨name, rfl⟩
  · exact absurd hempty h.1
  · exact absurd (hp ▸ List.mem_append_right _ (List.mem_singleton_self _)) hup
  · exact ⟨name, by simp [hp, lastName?], hp⟩

end Path

namespace MemoryStorage

section Calls

theorem get?_addFolderParts (storage : MemoryStorage) (parts key : List PathPart) :
    (storage.addFolderParts parts).entries.get? key =
      if key ≠ [] ∧ key <+: parts then some ((storage.entries.get? key).getD .folder)
      else storage.entries.get? key := by
  have hfold : ∀ (starts : List (List PathPart)) (storage : MemoryStorage),
      (starts.foldl (fun s ancestor => ⟨s.entries.insertNew ancestor .folder⟩)
        storage).entries.get? key =
        if key ∈ starts then some ((storage.entries.get? key).getD .folder)
        else storage.entries.get? key := by
    intro starts
    induction starts with
    | nil => simp
    | cons start rest ih =>
        intro storage
        rw [List.foldl_cons, ih, OrderedMap.insertNew, OrderedMap.get?_alter]
        by_cases hstart : key = start
        · simp [← hstart]
        · simp [hstart]
  rw [addFolderParts, hfold]
  simp only [mem_startsOf_iff]

/-- The starts of a path are the path itself and the starts of the folder that it lies in. -/
theorem prefix_parts_iff {p : Path} {key : List PathPart} (hkey : key ≠ []) :
    key <+: p.parts ↔ key = p.parts ∨
      ∃ parent, Path.parentParts? p.parts = some parent ∧ key <+: parent := by
  rcases List.eq_nil_or_concat p.parts with hp | ⟨front, last, hp⟩
  · simp [hp, hkey, Path.parentParts?]
  · rw [List.concat_eq_append] at hp
    rw [hp, List.prefix_concat_iff]
    rcases Path.eq_nil_or_inner hp with rfl | rfl | ⟨text, rfl⟩
    · cases last <;> simp [Path.parentParts?, hkey]
    · simp [Path.parentParts?]
    · simp [Path.parentParts?]

theorem get?_addFile (storage : MemoryStorage) (path : Path) (bytes : List UInt8)
    (key : List PathPart) :
    (storage.addFile path bytes).entries.get? key =
      if key = path.parts then some (.file bytes)
      else if key ≠ [] ∧ key <+: path.parts then some ((storage.entries.get? key).getD .folder)
      else storage.entries.get? key := by
  rw [addFile, OrderedMap.get?_insert]
  split
  · rfl
  · rename_i hself
    by_cases hkey : key = []
    · cases hparent : Path.parentParts? path.parts <;> simp [hkey, get?_addFolderParts]
    · simp only [prefix_parts_iff hkey, hself, false_or]
      cases hparent : Path.parentParts? path.parts with
      | none => simp
      | some parent => simp [get?_addFolderParts, hkey]

namespace Addition

/-- The path of a call. -/
def path : Addition → Path
  | folder path => path
  | file path _ => path

/-- Whether a call adds a file. -/
def isFile : Addition → Bool
  | folder _ => false
  | file _ _ => true

/-- The bytes that a call adds.  A folder has none. -/
def bytes : Addition → List UInt8
  | folder _ => []
  | file _ bytes => bytes

/-- Whether a call adds a file at a key. -/
def IsFileAt (addition : Addition) (key : List PathPart) : Prop :=
  addition.isFile = true ∧ addition.path.parts = key

/-- Whether there is something at a key because of a call: its path, or a folder that this lies
in. -/
def Reaches (addition : Addition) (key : List PathPart) : Prop :=
  addition.IsFileAt key ∨ (key ≠ [] ∧ key <+: addition.path.parts)

theorem IsFileAt.reaches {addition : Addition} {key : List PathPart}
    (h : addition.IsFileAt key) : addition.Reaches key := .inl h

instance (addition : Addition) (key : List PathPart) : Decidable (addition.IsFileAt key) :=
  inferInstanceAs (Decidable (_ ∧ _))

instance (addition : Addition) (key : List PathPart) : Decidable (addition.Reaches key) :=
  inferInstanceAs (Decidable (_ ∨ _))

end Addition

/-- One call, at any key: a file replaces what is there, and folders are added where nothing is. -/
theorem get?_add (storage : MemoryStorage) (addition : Addition) (key : List PathPart) :
    (storage.add addition).entries.get? key =
      if addition.IsFileAt key then some (.file addition.bytes)
      else if addition.Reaches key then some ((storage.entries.get? key).getD .folder)
      else storage.entries.get? key := by
  cases addition with
  | folder path =>
      simp [add, addFolder, get?_addFolderParts, Addition.Reaches, Addition.IsFileAt,
        Addition.isFile, Addition.path]
  | file path bytes =>
      rw [add, get?_addFile]
      by_cases hself : key = path.parts
      · simp [hself, Addition.IsFileAt, Addition.isFile, Addition.path, Addition.bytes]
      · simp [hself, Ne.symm hself, Addition.Reaches, Addition.IsFileAt, Addition.path]

/-- There is nothing where no call left anything. -/
theorem get?_ofAdditions_eq_none_iff {additions : List Addition} {key : List PathPart} :
    (ofAdditions additions).entries.get? key = none ↔
      ∀ addition ∈ additions, ¬ addition.Reaches key := by
  induction additions using List.reverseRecOn with
  | nil => simp [ofAdditions, empty]
  | append_singleton additions addition ih =>
      rw [ofAdditions_concat, get?_add]
      simp only [List.mem_append, List.mem_singleton, or_imp, forall_and, forall_eq, ← ih]
      split
      · rename_i hfile
        simp [hfile.reaches]
      · split <;> rename_i hkey <;> simp [hkey]

/-- There is something where some call left something. -/
theorem isSome_get?_ofAdditions {additions : List Addition} {key : List PathPart} :
    ((ofAdditions additions).entries.get? key).isSome = true ↔
      ∃ addition ∈ additions, addition.Reaches key := by
  rw [← not_iff_not, Bool.not_eq_true, Option.isSome_eq_false_iff, Option.isNone_iff_eq_none,
    get?_ofAdditions_eq_none_iff]
  push Not
  rfl

/-- What is there is a folder unless some call added a file at its place. -/
theorem get?_ofAdditions_eq_folder_iff {additions : List Addition} {key : List PathPart} :
    (ofAdditions additions).entries.get? key = some .folder ↔
      (∃ addition ∈ additions, addition.Reaches key) ∧
        ∀ addition ∈ additions, ¬ addition.IsFileAt key := by
  induction additions using List.reverseRecOn with
  | nil => simp [ofAdditions, empty]
  | append_singleton additions addition ih =>
      rw [ofAdditions_concat, get?_add]
      simp only [List.mem_append, List.mem_singleton, or_imp, forall_and, forall_eq, or_and_right,
        exists_or, exists_eq_left]
      by_cases hfile : addition.IsFileAt key
      · simp [hfile]
      rw [if_neg hfile]
      -- Otherwise the call adds a folder at most, and only where no call before it left anything.
      cases hbefore : (ofAdditions additions).entries.get? key with
      | none =>
          have hnone := get?_ofAdditions_eq_none_iff.1 hbefore
          have hnofile : ∀ other ∈ additions, ¬ other.IsFileAt key :=
            fun other hother hfile => hnone other hother hfile.reaches
          have hnever : ¬ ∃ other ∈ additions, other.Reaches key := by
            rintro ⟨other, hother, hkey⟩
            exact hnone other hother hkey
          simpa [hnever, hfile] using fun _ : addition.Reaches key => hnofile
      | some entry =>
          have hsome := isSome_get?_ofAdditions.1 (Option.isSome_iff_exists.2 ⟨entry, hbefore⟩)
          rw [hbefore] at ih
          simp [ih, hsome, hfile]

end Calls

/-- Whether a folder lists the name of a path, once and in order. -/
def Lists (storage : MemoryStorage) (folder p : Path) : Prop :=
  ∃ name names, Path.lastName? p.parts = some name ∧ storage.list folder = .ok names ∧
    names.Pairwise (fun a b => KeyOrder.before a b = true) ∧ names.count (String.ofList name) = 1

/-- Whether a storage is a tree: what lies above an entry is there and is a folder, and the folder
that holds an entry lists it. -/
structure IsTree (storage : MemoryStorage) : Prop where
  above : ∀ p above : Path, storage.has p = true → above.IsAbove p →
    storage.has above = true ∧ storage.isFolder above = true
  listed : ∀ p folder : Path, storage.has p = true → folder.Holds p → storage.Lists folder p

/-- A folder lists whatever has its parts and one more name. -/
theorem lists_of_isFolder {storage : MemoryStorage} {folder p : Path}
    (hp : storage.has p = true) (hholds : folder.Holds p) (hup : PathPart.up ∉ p.parts)
    (hfolder : storage.isFolder folder = true) : storage.Lists folder p := by
  obtain ⟨name, hname, hparts⟩ := Path.exists_lastName?_of_holds hholds hup
  refine ⟨name, storage.namesIn folder.parts, hname, ?_, pairwise_namesIn storage _, ?_⟩
  · rw [list, if_pos hfolder]
  · refine List.count_eq_one_of_mem (nodup_namesIn storage _) (mem_namesIn_iff.2 ?_)
    rw [String.toList_ofList, ← hparts]
    exact hp

section Tree

variable {additions : List Addition}

theorem has_ofAdditions_iff {p : Path} :
    (ofAdditions additions).has p = true ↔
      ∃ addition ∈ additions, addition.Reaches p.parts := isSome_get?_ofAdditions

theorem Addition.Reaches.isPrefix {addition : Addition} {key : List PathPart}
    (h : addition.Reaches key) : key <+: addition.path.parts := by
  rcases h with ⟨-, hpath⟩ | ⟨-, hpath⟩
  · exact hpath ▸ List.prefix_rfl
  · exact hpath

/-- What lies above something that a call left lies above the path of the call. -/
theorem Addition.Reaches.isAbove {addition : Addition} {p above : Path}
    (h : addition.Reaches p.parts) (habove : above.IsAbove p) : above.IsAbove addition.path := by
  obtain ⟨hne, hprefix, hother⟩ := habove
  refine ⟨hne, hprefix.trans h.isPrefix, fun heq => hother ?_⟩
  exact hprefix.eq_of_length_le (heq ▸ h.isPrefix.length_le)

/-- What lies above an entry is there, and it is a folder unless some call added a file there. -/
theorem above_entry {p above : Path} (hp : (ofAdditions additions).has p = true)
    (habove : above.IsAbove p) :
    (ofAdditions additions).has above = true ∧
      ((ofAdditions additions).isFolder above = true ↔
        ∀ addition ∈ additions, ¬ addition.IsFileAt above.parts) := by
  obtain ⟨addition, hmem, hreaches⟩ := has_ofAdditions_iff.1 hp
  have hlies := hreaches.isAbove habove
  have hthere : ∃ addition ∈ additions, addition.Reaches above.parts :=
    ⟨addition, hmem, .inr ⟨hlies.1, hlies.2.1⟩⟩
  refine ⟨has_ofAdditions_iff.2 hthere, ?_⟩
  rw [isFolder, beq_iff_eq, get?_ofAdditions_eq_folder_iff]
  exact and_iff_right hthere

/-- Without a part that leads up in a call, there is none in an entry. -/
theorem up_notMem_of_has (h : ∀ addition ∈ additions, addition.path.leadsUp = false) {p : Path}
    (hp : (ofAdditions additions).has p = true) : PathPart.up ∉ p.parts := by
  intro hmem
  obtain ⟨addition, haddition, hreaches⟩ := has_ofAdditions_iff.1 hp
  have hleads := h addition haddition
  simp [Path.leadsUp, hreaches.isPrefix.subset hmem] at hleads

/-- Where no file lies above the path of a call, folders lie above all entries. -/
theorem isFolder_of_isAbove
    (hfiles : ∀ file ∈ additions, file.isFile = true →
      ∀ other ∈ additions, ¬ file.path.IsAbove other.path)
    {p above : Path} (hp : (ofAdditions additions).has p = true) (habove : above.IsAbove p) :
    (ofAdditions additions).isFolder above = true := by
  refine (above_entry hp habove).2.2 fun file hfile hisFile => ?_
  obtain ⟨other, hother, hreaches⟩ := has_ofAdditions_iff.1 hp
  have hlies := hreaches.isAbove habove
  rw [Path.IsAbove, ← hisFile.2] at hlies
  exact hfiles file hfile hisFile.1 other hother hlies

/-- In a tree no file lies above the path of a call. -/
theorem IsTree.not_isAbove (h : (ofAdditions additions).IsTree) {file other : Addition}
    (hfile : file ∈ additions) (hisFile : file.isFile = true) (hother : other ∈ additions) :
    ¬ file.path.IsAbove other.path := by
  intro habove
  have hne : other.path.parts ≠ [] := by
    intro hempty
    have hprefix := habove.2.1
    rw [hempty, List.prefix_nil] at hprefix
    exact habove.1 hprefix
  have hp : (ofAdditions additions).has other.path = true :=
    has_ofAdditions_iff.2 ⟨other, hother, .inr ⟨hne, List.prefix_rfl⟩⟩
  have hfolder := (h.above _ _ hp habove).2
  exact (above_entry hp habove).2.1 hfolder file hfile ⟨hisFile, rfl⟩

/-- Storage that calls without a part that leads up make is a tree exactly if no call added a file
above the path of another call.  What lies above an entry is there in any case, and is a folder
unless some call added a file in its place; what holds an entry lists it unless it is such a file.
-/
theorem isTree_ofAdditions_iff (h : ∀ addition ∈ additions, addition.path.leadsUp = false) :
    ((ofAdditions additions).IsTree ↔ ∀ file ∈ additions, file.isFile = true →
      ∀ other ∈ additions, ¬ file.path.IsAbove other.path) ∧
    ∀ p, (ofAdditions additions).has p = true →
      (∀ above : Path, above.IsAbove p → (ofAdditions additions).has above = true ∧
        ((ofAdditions additions).isFolder above = true ↔
          ∀ addition ∈ additions, ¬ addition.IsFileAt above.parts)) ∧
      ∀ folder : Path, folder.Holds p →
        if (ofAdditions additions).isFolder folder then (ofAdditions additions).Lists folder p
        else (ofAdditions additions).list folder = .error (.notFound folder) := by
  refine ⟨⟨fun htree file hfile hisFile other hother => ?_, fun hfiles => ⟨?_, ?_⟩⟩, ?_⟩
  · exact htree.not_isAbove hfile hisFile hother
  · exact fun p above hp habove =>
      ⟨(above_entry hp habove).1, isFolder_of_isAbove hfiles hp habove⟩
  · exact fun p folder hp hholds => lists_of_isFolder hp hholds (up_notMem_of_has h hp)
      (isFolder_of_isAbove hfiles hp hholds.isAbove)
  · refine fun p hp => ⟨fun above habove => above_entry hp habove, fun folder hholds => ?_⟩
    split
    · rename_i hfolder
      exact lists_of_isFolder hp hholds (up_notMem_of_has h hp) hfolder
    · rename_i hfolder
      rw [list, if_neg hfolder]

/-- Folders and files in any order, one of them in place of an empty folder. -/
theorem isTree_ofAdditions_of_mixed :
    let additions : List Addition :=
      [.folder (.ofString "/d/e"), .file (.ofString "/d/x") [1], .file (.ofString "/d/e/y") [2],
        .folder (.ofString "z"), .file (.ofString "z") [3], .folder (.ofString "/d/e/f")]
    (∀ addition ∈ additions, addition.path.leadsUp = false) ∧ (ofAdditions additions).IsTree := by
  have hup : ∀ addition ∈ [Addition.folder (.ofString "/d/e"), .file (.ofString "/d/x") [1],
      .file (.ofString "/d/e/y") [2], .folder (.ofString "z"), .file (.ofString "z") [3],
      .folder (.ofString "/d/e/f")], addition.path.leadsUp = false := by decide
  exact ⟨hup, (isTree_ofAdditions_iff hup).1.2 (by decide)⟩

/-- A file that is added below a file does not make a folder of it. -/
theorem not_isTree_of_file_below_file :
    let additions : List Addition := [.file (.ofString "a") [], .file (.ofString "a/b") []]
    (∀ addition ∈ additions, PathPart.here ∉ addition.path.parts ∧
      PathPart.up ∉ addition.path.parts) ∧ ¬ (ofAdditions additions).IsTree := by
  refine ⟨by decide, fun h => ?_⟩
  exact h.not_isAbove List.mem_cons_self rfl (List.mem_cons_of_mem _ List.mem_cons_self)
    (by decide)

end Tree

end MemoryStorage

end CsvSchema
