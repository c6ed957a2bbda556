import CsvSchema.Proofs.Queries
import CsvSchema.Proofs.Storage.Folders

/-!
# What a walk finds

A walk through a folder finds each entry that is reached through folders, once, whether the listings
come from the storage or are remembered.  It looks no deeper than the storage is deep, and that is
deep enough, because an entry is a path of the storage and no path is longer.

A walk with a list of folders finds the same.  A folder that is in front of the list is done with
before anything behind it is looked into, `exists_finishes`, which goes by the depth that is left
like the other walk; so the list is empty at some point, and the walk ends, `turns_find_wanted`.
-/

namespace CsvSchema

open Memory

namespace MemoryStorage

section Walking

variable {storage : MemoryStorage} {root : Path}

/-- The entries that are reached from a folder, without the folders among them unless these are
asked for, each of them once. -/
structure Finds (storage : MemoryStorage) (root : Path) (withFolders : Bool)
    (folder : List (List Char)) (found : List (List (List Char))) : Prop where
  nodup : found.Nodup
  mem_iff : ∀ entry, entry ∈ found ↔ Reached storage root folder entry ∧
    (storage.entryBelow? root (Path.nameParts entry) = some .folder → withFolders = true)

/-- What an entry of a folder gives: itself, if it is asked for, and what is reached from it. -/
structure FindsAt (storage : MemoryStorage) (root : Path) (withFolders : Bool)
    (names : List (List Char)) (found : List (List (List Char))) : Prop where
  nodup : found.Nodup
  mem_iff : ∀ entry, entry ∈ found ↔ (entry = names ∨ Reached storage root names entry) ∧
    (storage.entryBelow? root (Path.nameParts entry) = some .folder → withFolders = true)

theorem FindsAt.exists_eq_append {withFolders : Bool} {folder : List (List Char)}
    {name : List Char} {found : List (List (List Char))}
    (h : FindsAt storage root withFolders (folder ++ [name]) found) {entry : List (List Char)}
    (hentry : entry ∈ found) : ∃ rest, entry = folder ++ name :: rest := by
  rcases ((h.mem_iff entry).1 hentry).1 with rfl | hreached
  · exact ⟨[], rfl⟩
  · obtain ⟨next, rest, rfl⟩ := hreached.exists_eq_append
    exact ⟨next :: rest, by simp⟩

theorem findsAt_file {withFolders : Bool} {names : List (List Char)}
    (hfile : storage.entryBelow? root (Path.nameParts names) ≠ some .folder) :
    FindsAt storage root withFolders names [names] where
  nodup := by simp
  mem_iff entry := by
    rw [List.mem_singleton]
    constructor
    · rintro rfl
      exact ⟨.inl rfl, fun hfolder => absurd hfolder hfile⟩
    · rintro ⟨rfl | hreached, -⟩
      · rfl
      · cases hreached with
        | listed hfolder _ => exact absurd hfolder hfile
        | inside hfolder _ => exact absurd hfolder hfile

theorem findsAt_folder {withFolders : Bool} {names : List (List Char)}
    {inside : List (List (List Char))}
    (hfolder : storage.entryBelow? root (Path.nameParts names) = some .folder)
    (h : Finds storage root withFolders names inside) :
    FindsAt storage root withFolders names
      (if withFolders = true then names :: inside else inside) := by
  have hself : names ∉ inside := by
    intro hmem
    obtain ⟨name, rest, heq⟩ := ((h.mem_iff names).1 hmem).1.exists_eq_append
    simp at heq
  cases withFolders with
  | true =>
      refine ⟨List.nodup_cons.2 ⟨hself, h.nodup⟩, fun entry => ?_⟩
      simp only [if_true, List.mem_cons, h.mem_iff, implies_true, and_true]
  | false =>
      refine ⟨h.nodup, fun entry => ?_⟩
      simp only [Bool.false_eq_true, if_false, h.mem_iff]
      constructor
      · rintro ⟨hreached, hwanted⟩
        exact ⟨.inr hreached, hwanted⟩
      · rintro ⟨rfl | hreached, hwanted⟩
        · exact (hwanted hfolder).elim
        · exact ⟨hreached, hwanted⟩

/-- What some entries of a folder give, one after the other. -/
structure FindsAmong (storage : MemoryStorage) (root : Path) (withFolders : Bool)
    (folder : List (List Char)) (names : List String) (found : List (List (List Char))) :
    Prop where
  nodup : found.Nodup
  mem_iff : ∀ entry, entry ∈ found ↔ ∃ name ∈ names,
    (entry = folder ++ [name.toList] ∨ Reached storage root (folder ++ [name.toList]) entry) ∧
      (storage.entryBelow? root (Path.nameParts entry) = some .folder → withFolders = true)

theorem FindsAmong.perm {withFolders : Bool} {folder : List (List Char)} {names : List String}
    {found other : List (List (List Char))}
    (h : FindsAmong storage root withFolders folder names found) (hperm : found.Perm other) :
    FindsAmong storage root withFolders folder names other where
  nodup := hperm.nodup_iff.1 h.nodup
  mem_iff entry := by rw [← hperm.mem_iff, h.mem_iff]

/-- Entries at different names have nothing in common, because each begins with its name. -/
theorem FindsAt.append {withFolders : Bool} {folder : List (List Char)} {name : String}
    {rest : List String} {found after : List (List (List Char))}
    (h : FindsAt storage root withFolders (folder ++ [name.toList]) found)
    (hafter : FindsAmong storage root withFolders folder rest after) (hfresh : name ∉ rest) :
    FindsAmong storage root withFolders folder (name :: rest) (found ++ after) := by
  refine ⟨List.nodup_append.2 ⟨h.nodup, hafter.nodup, ?_⟩, fun entry => ?_⟩
  · rintro entry hentry _ hentry' rfl
    obtain ⟨inner, hinner⟩ := h.exists_eq_append hentry
    obtain ⟨other, hother, hcases, -⟩ := (hafter.mem_iff entry).1 hentry'
    obtain ⟨inner', hinner'⟩ : ∃ inner', entry = folder ++ other.toList :: inner' := by
      rcases hcases with rfl | hreached
      · exact ⟨[], rfl⟩
      · obtain ⟨next, inner', rfl⟩ := hreached.exists_eq_append
        exact ⟨next :: inner', by simp⟩
    rw [hinner, List.append_cancel_left_eq, List.cons.injEq] at hinner'
    rw [String.toList_inj.1 hinner'.1] at hfresh
    exact hfresh hother
  · simp only [List.mem_append, h.mem_iff, hafter.mem_iff, List.mem_cons, exists_eq_or_imp]

theorem mem_namesIn_below {folder : List (List Char)} {name : String} :
    name ∈ storage.namesIn (root.parts ++ Path.nameParts folder) ↔
      (storage.entryBelow? root (Path.nameParts (folder ++ [name.toList]))).isSome = true := by
  rw [mem_namesIn_iff, entryBelow?, Path.nameParts, Path.nameParts, List.map_append,
    List.append_assoc]
  rfl

/-- No entry lies deeper below a folder than the storage is deep. -/
theorem length_le_depth_below {names : List (List Char)}
    (h : (storage.entryBelow? root (Path.nameParts names)).isSome = true) :
    names.length ≤ storage.depth := by
  have hlength := length_le_depth h
  rw [List.length_append, Path.nameParts, List.length_map] at hlength
  omega

/-- What all entries of a folder give is what is reached from it. -/
theorem FindsAmong.finds {withFolders : Bool} {folder : List (List Char)}
    {found : List (List (List Char))}
    (hfolder : storage.entryBelow? root (Path.nameParts folder) = some .folder)
    (h : FindsAmong storage root withFolders folder
      (storage.namesIn (root.parts ++ Path.nameParts folder)) found) :
    Finds storage root withFolders folder found := by
  refine ⟨h.nodup, fun entry => ?_⟩
  rw [h.mem_iff, reached_iff hfolder]
  constructor
  · rintro ⟨name, hname, hreached, hwanted⟩
    exact ⟨⟨name.toList, mem_namesIn_below.1 hname, hreached⟩, hwanted⟩
  · rintro ⟨⟨name, hname, hreached⟩, hwanted⟩
    have htext : (String.ofList name).toList = name := String.toList_ofList
    refine ⟨String.ofList name, mem_namesIn_below.2 ?_, ?_, hwanted⟩
    · rw [htext]
      exact hname
    · rw [htext]
      exact hreached

theorem entryBelow?_nil_of_isFolder (hfolder : storage.isFolder root = true) :
    storage.entryBelow? root (Path.nameParts []) = some .folder := by
  simpa [isFolder, entryBelow?, Path.nameParts] using hfolder

theorem Plain.isName_of_isSome (hplain : storage.Plain) {names : List (List Char)}
    (h : (storage.entryBelow? root (Path.nameParts names)).isSome = true) :
    ∀ name ∈ names, IsName name := by
  obtain ⟨entry, hentry⟩ := Option.isSome_iff_exists.1 h
  exact fun name hname => hplain.names _ entry hentry name
    (List.mem_append_right _ (List.mem_map_of_mem hname))

variable (hplain : storage.Plain) (hroot : root.chars ≠ [])
include hplain hroot

/-- A path made of names that lead to an entry has the parts of that entry. -/
theorem parts_join_of_isSome {names : List (List Char)}
    (h : (storage.entryBelow? root (Path.nameParts names)).isSome = true) :
    (root.join (namesPath names)).parts = root.parts ++ Path.nameParts names :=
  Path.parts_join_namesPath hroot (hplain.isName_of_isSome h)

theorem isFolder_join {names : List (List Char)}
    (h : (storage.entryBelow? root (Path.nameParts names)).isSome = true) :
    storage.toStorage.isFolder (root.join (namesPath names)) = true ↔
      storage.entryBelow? root (Path.nameParts names) = some .folder := by
  simp only [toStorage, isFolder, parts_join_of_isSome hplain hroot h, beq_iff_eq, entryBelow?]

theorem list?_join {names : List (List Char)}
    (h : storage.entryBelow? root (Path.nameParts names) = some .folder) :
    storage.toStorage.list? (root.join (namesPath names)) =
      some (storage.namesIn (root.parts ++ Path.nameParts names)) := by
  have hsome : (storage.entryBelow? root (Path.nameParts names)).isSome = true := by rw [h]; rfl
  have hfolder : storage.isFolder (root.join (namesPath names)) = true :=
    (isFolder_join hplain hroot hsome).2 h
  simp only [toStorage, list, hfolder, if_true, parts_join_of_isSome hplain hroot hsome]
  rfl

/-- Some entries of a folder, when it is known what is found in each folder among them. -/
theorem exists_tells_walkEntries {withFolders : Bool} {depth : Nat} {folder : List (List Char)}
    (hinside : ∀ name : List Char,
      storage.entryBelow? root (Path.nameParts (folder ++ [name])) = some .folder →
      ∃ found, Tells storage.toStorage
        (walkFolder storage.toStorage root withFolders depth (folder ++ [name])) found ∧
        Finds storage root withFolders (folder ++ [name]) found)
    {names : List String} (hnodup : names.Nodup)
    (hnames : ∀ name ∈ names,
      (storage.entryBelow? root (Path.nameParts (folder ++ [name.toList]))).isSome = true) :
    ∃ found, Tells storage.toStorage
      (walkEntries storage.toStorage root withFolders depth folder names) found ∧
      FindsAmong storage root withFolders folder names found := by
  induction names with
  | nil =>
      refine ⟨[], ?_, List.nodup_nil, by simp⟩
      unfold walkEntries
      exact .pure []
  | cons name rest ih =>
      obtain ⟨hfresh, hrestNodup⟩ := List.nodup_cons.1 hnodup
      obtain ⟨hname, hrest⟩ := List.forall_mem_cons.1 hnames
      obtain ⟨after, hafter, hfindsAfter⟩ := ih hrestNodup hrest
      have hkind := isFolder_join hplain hroot hname
      by_cases hfolder :
          storage.toStorage.isFolder (root.join (namesPath (folder ++ [name.toList]))) = true
      · obtain ⟨inside, htells, hfinds⟩ := hinside name.toList (hkind.1 hfolder)
        have hentry := findsAt_folder (hkind.1 hfolder) hfinds
        refine ⟨_, ?_, hentry.append hfindsAfter hfresh⟩
        unfold walkEntries
        simp only [hfolder, if_true]
        exact htells.bind ((Tells.pure _).bind (hafter.bind (.pure _)))
      · have hentry : FindsAt storage root withFolders (folder ++ [name.toList]) _ :=
          findsAt_file fun h => hfolder (hkind.2 h)
        refine ⟨_, ?_, hentry.append hfindsAfter hfresh⟩
        unfold walkEntries
        simp only [hfolder, Bool.false_eq_true, if_false]
        exact (Tells.pure _).bind (hafter.bind (.pure _))

/-- A folder, with enough depth left for the longest path. -/
theorem exists_tells_walkFolder (withFolders : Bool) {depth : Nat} {folder : List (List Char)}
    (hfolder : storage.entryBelow? root (Path.nameParts folder) = some .folder)
    (hdepth : storage.depth < depth + folder.length) :
    ∃ found, Tells storage.toStorage
      (walkFolder storage.toStorage root withFolders depth folder) found ∧
      Finds storage root withFolders folder found := by
  induction depth generalizing folder with
  | zero =>
      have hlength := length_le_depth_below (by rw [hfolder]; rfl)
      omega
  | succ depth ih =>
      have hinside : ∀ name : List Char,
          storage.entryBelow? root (Path.nameParts (folder ++ [name])) = some .folder →
          ∃ found, Tells storage.toStorage
            (walkFolder storage.toStorage root withFolders depth (folder ++ [name])) found ∧
            Finds storage root withFolders (folder ++ [name]) found := by
        intro name hname
        refine ih hname ?_
        rw [List.length_append, List.length_singleton]
        omega
      obtain ⟨found, htells, hfinds⟩ := exists_tells_walkEntries hplain hroot hinside
        (nodup_namesIn storage (root.parts ++ Path.nameParts folder))
        fun _ hname => mem_namesIn_below.1 hname
      refine ⟨found, ?_, hfinds.finds hfolder⟩
      unfold walkFolder
      have hlist := tells_list? storage.byParts (root.join (namesPath folder))
      rw [list?_join hplain hroot hfolder] at hlist
      exact hlist.bind htells

/-- A walk finds what is reached from its folder. -/
theorem exists_tells_walk (withFolders : Bool)
    (hfolder : storage.isFolder root = true) :
    ∃ found, Tells storage.toStorage (walk storage.toStorage root withFolders) found ∧
      Finds storage root withFolders [] found := by
  obtain ⟨found, htells, hfinds⟩ := exists_tells_walkFolder hplain hroot withFolders
    (entryBelow?_nil_of_isFolder hfolder) (Nat.lt_succ_self storage.depth)
  have hperm := List.mergeSort_perm found namesInOrder
  refine ⟨_, htells.bind (.pure (found.mergeSort namesInOrder)), ?_, fun entry => ?_⟩
  · exact hperm.nodup_iff.2 hfinds.nodup
  · rw [hperm.mem_iff]
    exact hfinds.mem_iff entry

end Walking

section WorkLists

variable {storage : MemoryStorage} {root : Path} {withFolders : Bool}

/-- The work list in which folders and entries are written by their names. -/
def workList (pending found : List (List (List Char))) : WorkList :=
  ⟨pending.map namesPath, found.map namesPath⟩

theorem note_of_isFolder {names : List (List Char)} {pending found : List (List (List Char))}
    (h : storage.toStorage.isFolder (root.join (namesPath names)) = true) :
    (workList pending found).note storage.toStorage root withFolders (namesPath names) =
      workList (names :: pending) (found ++ if withFolders then [names] else []) := by
  rw [WorkList.note, if_pos h]
  cases withFolders <;> simp [workList]

theorem note_of_not_isFolder {names : List (List Char)} {pending found : List (List (List Char))}
    (h : ¬ storage.toStorage.isFolder (root.join (namesPath names)) = true) :
    (workList pending found).note storage.toStorage root withFolders (namesPath names) =
      workList pending (found ++ [names]) := by
  rw [WorkList.note, if_neg h]
  simp [workList]

theorem turns_add (n m : Nat) (work : WorkList) (memory : Memory) :
    WorkList.turns storage.toStorage root withFolders (n + m) work memory =
      WorkList.turns storage.toStorage root withFolders m
        (WorkList.turns storage.toStorage root withFolders n work memory).1
        (WorkList.turns storage.toStorage root withFolders n work memory).2 := by
  induction n generalizing work memory with
  | zero => rw [Nat.zero_add]; rfl
  | succ n ih =>
      rw [Nat.add_right_comm]
      exact ih _ _

/-- When nothing is pending, the walk is over. -/
theorem turns_of_pending_nil {work : WorkList} (h : work.pending = []) (n : Nat)
    (memory : Memory) :
    WorkList.turns storage.toStorage root withFolders n work memory = (work, memory) := by
  induction n with
  | zero => rfl
  | succ n ih =>
      rw [WorkList.turns, Stateful.bind_apply, WorkList.turn, h]
      exact ih

/-- A walk that comes to some folders is done with all that is in them after some turns, has then
found some entries more, and goes on with what was in the list before. -/
def Finishes (storage : MemoryStorage) (root : Path) (withFolders : Bool)
    (folders found : List (List (List Char))) : Prop :=
  ∀ (pending before : List (List (List Char))) (memory : Memory),
    memory.probes.Truthful storage.toStorage →
    ∃ (n : Nat) (memory' : Memory), memory'.probes.Truthful storage.toStorage ∧
      WorkList.turns storage.toStorage root withFolders n (workList (folders ++ pending) before)
        memory = (workList pending (before ++ found), memory')

namespace Finishes

theorem nil : Finishes storage root withFolders [] [] := by
  intro pending before memory hmemory
  refine ⟨0, memory, hmemory, ?_⟩
  rw [List.nil_append, List.append_nil]
  rfl

theorem append {folders more found after : List (List (List Char))}
    (h : Finishes storage root withFolders folders found)
    (hmore : Finishes storage root withFolders more after) :
    Finishes storage root withFolders (folders ++ more) (found ++ after) := by
  intro pending before memory hmemory
  obtain ⟨n, memory₁, hmemory₁, hfirst⟩ := h (more ++ pending) before memory hmemory
  obtain ⟨m, memory₂, hmemory₂, hthen⟩ := hmore pending (before ++ found) memory₁ hmemory₁
  refine ⟨n + m, memory₂, hmemory₂, ?_⟩
  rw [turns_add, List.append_assoc, hfirst, hthen, List.append_assoc]

/-- A folder, when it is known what looking into it tells: its folders are looked into next. -/
theorem folder {folder : List (List Char)} {folders items inside : List (List (List Char))}
    (hlook : ∀ pending before, Tells storage.toStorage
      (WorkList.lookInto storage.toStorage root withFolders (workList pending before)
        (namesPath folder)) (workList (folders ++ pending) (before ++ items)))
    (h : Finishes storage root withFolders folders inside) :
    Finishes storage root withFolders [folder] (items ++ inside) := by
  intro pending before memory hmemory
  obtain ⟨hwork, -, htruthful⟩ := hlook pending before memory hmemory
  obtain ⟨n, memory', hmemory', hrest⟩ := h pending (before ++ items) _ htruthful
  refine ⟨n + 1, memory', hmemory', ?_⟩
  rw [← List.append_assoc, ← hrest, ← hwork]
  rfl

end Finishes

variable (hplain : storage.Plain) (hroot : root.chars ≠ [])
include hplain hroot

/-- What noting some entries of a folder adds to a work list, when it is known what is found in each
folder among them.  Folders are put in front one by one, so they come to be looked into in the
opposite order. -/
theorem exists_foldl_note {folder : List (List Char)}
    (hinside : ∀ name : List Char,
      storage.entryBelow? root (Path.nameParts (folder ++ [name])) = some .folder →
      ∃ found, Finishes storage root withFolders [folder ++ [name]] found ∧
        Finds storage root withFolders (folder ++ [name]) found)
    {names : List String} (hnodup : names.Nodup)
    (hnames : ∀ name ∈ names,
      (storage.entryBelow? root (Path.nameParts (folder ++ [name.toList]))).isSome = true) :
    ∃ folders items inside,
      (∀ pending found, names.foldl
        (fun work name => work.note storage.toStorage root withFolders
          ((namesPath folder).join (.ofString name))) (workList pending found) =
        workList (folders ++ pending) (found ++ items)) ∧
      Finishes storage root withFolders folders inside ∧
      FindsAmong storage root withFolders folder names (items ++ inside) := by
  induction names with
  | nil =>
      refine ⟨[], [], [], fun pending found => ?_, .nil, List.nodup_nil, by simp⟩
      rw [List.foldl_nil, List.nil_append, List.append_nil]
  | cons name rest ih =>
      obtain ⟨hfresh, hrestNodup⟩ := List.nodup_cons.1 hnodup
      obtain ⟨hname, hrest⟩ := List.forall_mem_cons.1 hnames
      obtain ⟨folders, items, inside, hfold, hfinishes, hamong⟩ := ih hrestNodup hrest
      have hkind := isFolder_join hplain hroot hname
      have hjoin : (namesPath folder).join (.ofString name) =
          namesPath (folder ++ [name.toList]) := by
        have hall := hplain.isName_of_isSome hname
        exact Path.namesPath_join_name (fun x hx => hall x (List.mem_append_left _ hx))
          (hall _ (by simp))
      simp only [List.foldl_cons, hjoin]
      by_cases hfolder :
          storage.toStorage.isFolder (root.join (namesPath (folder ++ [name.toList]))) = true
      -- A folder is put behind those of the later names, and is looked into after them.
      · obtain ⟨deeper, hdeeper, hfinds⟩ := hinside name.toList (hkind.1 hfolder)
        have hentry := (findsAt_folder (hkind.1 hfolder) hfinds).append hamong hfresh
        refine ⟨folders ++ [folder ++ [name.toList]],
          (if withFolders then [folder ++ [name.toList]] else []) ++ items, inside ++ deeper,
          fun pending found => ?_, hfinishes.append hdeeper, hentry.perm ?_⟩
        · rw [note_of_isFolder hfolder, hfold, List.append_assoc, List.append_assoc,
            List.singleton_append]
        · rw [List.perm_iff_count]
          intro entry
          cases withFolders <;> simp only [if_true, Bool.false_eq_true, if_false, List.count_append,
            List.count_cons, List.count_nil] <;> omega
      · have hentry : FindsAt storage root withFolders (folder ++ [name.toList]) _ :=
          findsAt_file fun h => hfolder (hkind.2 h)
        refine ⟨folders, [folder ++ [name.toList]] ++ items, inside, fun pending found => ?_,
          hfinishes, ?_⟩
        · rw [note_of_not_isFolder hfolder, hfold, List.append_assoc]
        · rw [List.append_assoc]
          exact hentry.append hamong hfresh

/-- What a walk has found when it is done with a folder and all that is in it. -/
theorem exists_finishes (withFolders : Bool) {folder : List (List Char)}
    (hfolder : storage.entryBelow? root (Path.nameParts folder) = some .folder) :
    ∃ found, Finishes storage root withFolders [folder] found ∧
      Finds storage root withFolders folder found := by
  -- The induction is on the room between the folder and the longest path.
  obtain ⟨room, hroom⟩ : ∃ room, storage.depth < room + folder.length :=
    ⟨storage.depth + 1, by omega⟩
  induction room generalizing folder with
  | zero =>
      have hlength := length_le_depth_below (by rw [hfolder]; rfl)
      omega
  | succ room ih =>
      have hinside : ∀ name : List Char,
          storage.entryBelow? root (Path.nameParts (folder ++ [name])) = some .folder →
          ∃ found, Finishes storage root withFolders [folder ++ [name]] found ∧
            Finds storage root withFolders (folder ++ [name]) found := by
        intro name hname
        refine ih hname ?_
        rw [List.length_append, List.length_singleton]
        omega
      obtain ⟨folders, items, inside, hfold, hfinishes, hamong⟩ :=
        exists_foldl_note hplain hroot hinside
          (nodup_namesIn storage (root.parts ++ Path.nameParts folder))
          fun _ hname => mem_namesIn_below.1 hname
      refine ⟨items ++ inside, hfinishes.folder fun pending before => ?_, hamong.finds hfolder⟩
      unfold WorkList.lookInto
      have hlist := tells_list? storage.byParts (root.join (namesPath folder))
      rw [list?_join hplain hroot hfolder] at hlist
      rw [← hfold]
      exact hlist.bind (.pure _)

end WorkLists

section Order

open KeyOrder

theorem pairwise_mergeSort_namesInOrder {found : List (List (List Char))} (h : found.Nodup) :
    (found.mergeSort namesInOrder).Pairwise fun a b => before a b = true := by
  have hsorted : (found.mergeSort namesInOrder).Pairwise fun a b => namesInOrder a b = true := by
    refine List.pairwise_mergeSort (fun a b c hab hbc => ?_) (fun a b => ?_) found
    · simp only [namesInOrder, Bool.not_eq_true'] at hab hbc ⊢
      by_contra hca
      rw [Bool.not_eq_false] at hca
      by_cases hba : before a b = true
      · exact absurd (KeyOrder.trans hca hba) (by simp [hbc])
      · rw [Bool.not_eq_true] at hba
        rw [KeyOrder.connected hba hab] at hca
        exact absurd hca (by simp [hbc])
    · by_cases hab : before a b = true
      · simp [namesInOrder, not_before_of_before hab]
      · simp [namesInOrder, hab]
  have hnodup := (List.mergeSort_perm found namesInOrder).nodup_iff.2 h
  refine (hsorted.and hnodup).imp fun {a b} hab => ?_
  by_contra hbefore
  rw [Bool.not_eq_true] at hbefore
  exact hab.2 (KeyOrder.connected hbefore (by simpa [namesInOrder] using hab.1))

theorem mergeSort_namesInOrder_congr {found other : List (List (List Char))} (h : found.Nodup)
    (hother : other.Nodup) (hmem : ∀ names, names ∈ found ↔ names ∈ other) :
    found.mergeSort namesInOrder = other.mergeSort namesInOrder := by
  have hperm := (List.perm_ext_iff_of_nodup h hother).2 hmem
  refine List.Perm.eq_of_pairwise (fun a b _ _ hab hba => ?_)
    (pairwise_mergeSort_namesInOrder h) (pairwise_mergeSort_namesInOrder hother) ?_
  · exact absurd hba (by simp [not_before_of_before hab])
  · exact (List.mergeSort_perm _ _).trans (hperm.trans (List.mergeSort_perm _ _).symm)

/-- Paths that names write are sorted as the lists of their names. -/
theorem mergeSort_map_namesPath {found : List (List (List Char))}
    (h : ∀ names ∈ found, ∀ name ∈ names, IsName name) :
    (found.map namesPath).mergeSort WorkList.pathsInOrder =
      (found.mergeSort namesInOrder).map namesPath := by
  refine (List.map_mergeSort fun a ha b hb => ?_).symm
  rw [namesInOrder, WorkList.pathsInOrder, Path.parts_namesPath (h a ha),
    Path.parts_namesPath (h b hb), Path.before_nameParts]

/-- Paths that names write are strictly in order if the lists of their names are. -/
theorem pairwise_map_namesPath {found : List (List (List Char))}
    (h : ∀ names ∈ found, ∀ name ∈ names, IsName name)
    (hsorted : found.Pairwise fun a b => before a b = true) :
    (found.map namesPath).Pairwise fun a b => before a.parts b.parts = true := by
  refine List.pairwise_map.2 (hsorted.imp_of_mem fun {a b} ha hb hbefore => ?_)
  rw [Path.parts_namesPath (h a ha), Path.parts_namesPath (h b hb), Path.before_nameParts]
  exact hbefore

end Order

section Fronts

variable {storage : MemoryStorage} {root : Path} {withFolders : Bool}

/-- All that lies on the way from a folder, without what it leads to, is folders. -/
def FoldersBetween (storage : MemoryStorage) (root : Path) (folder rest : List (List Char)) :
    Prop :=
  ∀ front, front <+: rest → front ≠ rest →
    storage.entryBelow? root (Path.nameParts (folder ++ front)) = some .folder

/-- A way of one name more begins with the folder where it starts. -/
theorem foldersBetween_cons_iff {folder rest : List (List Char)} {name : List Char} :
    FoldersBetween storage root folder (name :: rest) ↔
      storage.entryBelow? root (Path.nameParts folder) = some .folder ∧
        FoldersBetween storage root (folder ++ [name]) rest := by
  constructor
  · intro h
    refine ⟨?_, fun front hfront hother => ?_⟩
    · have hnil := h [] List.nil_prefix (by simp)
      rwa [List.append_nil] at hnil
    · have hbetween := h (name :: front) (List.cons_prefix_cons.2 ⟨rfl, hfront⟩)
        fun heq => hother (List.cons.inj heq).2
      rwa [List.append_assoc, List.singleton_append]
  · rintro ⟨hfolder, hrest⟩ front hfront hne
    cases front with
    | nil =>
        rw [List.append_nil]
        exact hfolder
    | cons first front =>
        obtain ⟨rfl, hprefix⟩ := List.cons_prefix_cons.1 hfront
        have hbetween := hrest front hprefix fun heq => hne (by rw [heq])
        rwa [List.append_assoc, List.singleton_append] at hbetween

theorem foldersBetween_nil (folder : List (List Char)) : FoldersBetween storage root folder [] :=
  fun _ hfront hne => absurd (List.prefix_nil.1 hfront) hne

/-- What is reached from a folder: there is an entry, and all that lies between is folders. -/
theorem reached_iff_fronts {folder entry : List (List Char)} :
    Reached storage root folder entry ↔ ∃ rest, rest ≠ [] ∧ entry = folder ++ rest ∧
      (storage.entryBelow? root (Path.nameParts entry)).isSome = true ∧
      FoldersBetween storage root folder rest := by
  constructor
  · intro h
    induction h with
    | @listed folder name hfolder hentry =>
        exact ⟨[name], List.cons_ne_nil _ _, rfl, hentry,
          foldersBetween_cons_iff.2 ⟨hfolder, foldersBetween_nil _⟩⟩
    | @inside folder entry name hfolder hentry ih =>
        obtain ⟨rest, -, rfl, hsome, hfronts⟩ := ih
        exact ⟨name :: rest, List.cons_ne_nil _ _, by simp, hsome,
          foldersBetween_cons_iff.2 ⟨hfolder, hfronts⟩⟩
  · rintro ⟨rest, hne, rfl, hsome, hfronts⟩
    -- The induction is on the way; each name of it is a step into a folder, the last one a listing.
    induction rest generalizing folder with
    | nil => exact absurd rfl hne
    | cons name rest ih =>
        obtain ⟨hfolder, hbelow⟩ := foldersBetween_cons_iff.1 hfronts
        by_cases hrest : rest = []
        · subst hrest
          exact .listed hfolder hsome
        · have hinside : Reached storage root (folder ++ [name]) (folder ++ [name] ++ rest) :=
            ih hrest (by simpa using hsome) hbelow
          rw [List.append_assoc, List.singleton_append] at hinside
          exact .inside hfolder hinside

/-- Whether a walk through a folder is to find what some names lead to: there is an entry, the
folder and all that lies between is folders, and the entry itself is one only if these are asked
for. -/
structure IsWanted (storage : MemoryStorage) (root : Path) (withFolders : Bool)
    (names : List (List Char)) : Prop where
  nonempty : names ≠ []
  plain : ∀ name ∈ names, IsName name
  has : storage.has (root.join (namesPath names)) = true
  start : storage.isFolder root = true
  between : ∀ front, front ≠ [] → front <+: names → front ≠ names →
    storage.isFolder (root.join (namesPath front)) = true
  kind : storage.isFolder (root.join (namesPath names)) = true → withFolders = true

theorem isWanted_iff (hplain : storage.Plain) (hroot : root.chars ≠ []) {names : List (List Char)} :
    IsWanted storage root withFolders names ↔ storage.isFolder root = true ∧
      Reached storage root [] names ∧
      (storage.entryBelow? root (Path.nameParts names) = some .folder → withFolders = true) := by
  have hfolder : ∀ front : List (List Char), (∀ name ∈ front, IsName name) →
      (storage.isFolder (root.join (namesPath front)) = true ↔
        storage.entryBelow? root (Path.nameParts front) = some .folder) := by
    intro front hfront
    rw [isFolder, Path.parts_join_namesPath hroot hfront, beq_iff_eq, entryBelow?]
  have hentry : (∀ name ∈ names, IsName name) →
      (storage.has (root.join (namesPath names)) = true ↔
        (storage.entryBelow? root (Path.nameParts names)).isSome = true) := by
    intro hnames
    rw [has, Path.parts_join_namesPath hroot hnames, entryBelow?]
  have hstart : storage.entryBelow? root (Path.nameParts []) = some .folder ↔
      storage.isFolder root = true := by
    simp [isFolder, entryBelow?, Path.nameParts]
  rw [reached_iff_fronts]
  simp only [List.nil_append]
  constructor
  · intro h
    refine ⟨h.start, ⟨names, h.nonempty, rfl, (hentry h.plain).1 h.has, fun front hfront hne => ?_⟩,
      fun hnames => h.kind ((hfolder names h.plain).2 hnames)⟩
    by_cases hnil : front = []
    · rw [hnil]
      exact hstart.2 h.start
    · exact (hfolder front fun name hname => h.plain name (hfront.subset hname)).1
        (h.between front hnil hfront hne)
  · rintro ⟨hisFolder, ⟨_, hne, rfl, hsome, hfronts⟩, hkind⟩
    have hnames := hplain.isName_of_isSome hsome
    refine ⟨hne, hnames, (hentry hnames).2 hsome, hisFolder, fun front _ hfront hother => ?_,
      fun hnamed => hkind ((hfolder _ hnames).1 hnamed)⟩
    exact (hfolder front fun name hname => hnames name (hfront.subset hname)).2
      (hfronts front hfront hother)

end Fronts

section Ends

variable {storage : MemoryStorage} {root : Path} {withFolders : Bool}

theorem list?_of_not_isFolder (hfolder : ¬ storage.isFolder root = true) :
    storage.toStorage.list? (root.join (namesPath [])) = none := by
  have hsame : storage.isFolder (root.join (namesPath [])) = storage.isFolder root := by
    simp only [isFolder, namesPath, List.intercalate_nil, Path.parts_join_nil]
  simp only [toStorage, list, hsame, hfolder]
  rfl

/-- The loop is done with the folder where it begins after some turns, and has found what is
wanted. -/
theorem exists_finishes_wanted (hplain : storage.Plain) (root : Path) (withFolders : Bool) :
    ∃ found, Finishes storage root withFolders [[]] found ∧ found.Nodup ∧
      ∀ names, names ∈ found ↔ IsWanted storage root withFolders names := by
  by_cases hfolder : storage.isFolder root = true
  · have hroot := hplain.ne_nil_of_isFolder hfolder
    obtain ⟨found, hfinishes, hfinds⟩ := exists_finishes hplain hroot withFolders
      (entryBelow?_nil_of_isFolder hfolder)
    refine ⟨found, hfinishes, hfinds.nodup, fun names => ?_⟩
    rw [hfinds.mem_iff, isWanted_iff hplain hroot, and_iff_right hfolder]
  · have hfinishes : Finishes storage root withFolders [[]] ([] ++ []) := by
      refine Finishes.nil.folder fun pending before => ?_
      unfold WorkList.lookInto
      have hlist := tells_list? storage.byParts (root.join (namesPath []))
      rw [list?_of_not_isFolder hfolder] at hlist
      rw [List.nil_append, List.append_nil]
      exact hlist.bind (.pure _)
    exact ⟨[], hfinishes, List.nodup_nil, fun names =>
      iff_of_false List.not_mem_nil fun h => hfolder h.start⟩

/-- So has the walk that is told how deep the storage is. -/
theorem exists_tells_wanted (hplain : storage.Plain) (root : Path) (withFolders : Bool) :
    ∃ found, Tells storage.toStorage
        (walkFolder storage.toStorage root withFolders (storage.depth + 1) []) found ∧
      found.Nodup ∧ ∀ names, names ∈ found ↔ IsWanted storage root withFolders names := by
  by_cases hfolder : storage.isFolder root = true
  · have hroot := hplain.ne_nil_of_isFolder hfolder
    obtain ⟨found, htells, hfinds⟩ := exists_tells_walkFolder hplain hroot withFolders
      (entryBelow?_nil_of_isFolder hfolder) (Nat.lt_succ_self storage.depth)
    refine ⟨found, htells, hfinds.nodup, fun names => ?_⟩
    rw [hfinds.mem_iff, isWanted_iff hplain hroot, and_iff_right hfolder]
  · refine ⟨[], ?_, List.nodup_nil, fun names => iff_of_false List.not_mem_nil
      fun h => hfolder h.start⟩
    unfold walkFolder
    have hlist := tells_list? storage.byParts (root.join (namesPath []))
    rw [list?_of_not_isFolder hfolder] at hlist
    exact hlist.bind (.pure _)

/-- What a walk by depth gives is what it finds, in order. -/
theorem walk_eq_of_tells {found : List (List (List Char))}
    (h : Tells storage.toStorage
      (walkFolder storage.toStorage root withFolders (storage.depth + 1) []) found)
    {memory : Memory} (hmemory : memory.probes.Truthful storage.toStorage) :
    (walk storage.toStorage root withFolders memory).1 = found.mergeSort namesInOrder :=
  (h.bind (.pure (found.mergeSort namesInOrder)) memory hmemory).1

/-- For every storage that some calls make, every path to begin at, and with nothing remembered
about files, a walk with a list of folders ends: from some turn on nothing is pending, and nothing
changes any more.  It gives the paths of the wanted entries, strictly in order and so each of them
once, and these are the paths that the walk by depth gives. -/
theorem turns_find_wanted (additions : List Addition) (root : Path) (withFolders memoize : Bool)
    (slots : OrderedMap Nat SlotMemory) :
    ∃ (n : Nat) (work : WorkList) (memory : Memory),
      (work.pending = [] ∧ ∀ m, WorkList.turns (ofAdditions additions).toStorage root withFolders
        (n + m) .start ⟨slots, .start memoize⟩ = (work, memory)) ∧
      work.entries.Pairwise (fun a b => KeyOrder.before a.parts b.parts = true) ∧
      (∀ p, p ∈ work.entries ↔ ∃ names, p = namesPath names ∧
        IsWanted (ofAdditions additions) root withFolders names) ∧
      work.entries = (walk (ofAdditions additions).toStorage root withFolders
        ⟨slots, .start memoize⟩).1.map namesPath := by
  have hplain := (built_ofAdditions additions).plain
  have hmemory : Probes.Truthful (ofAdditions additions).toStorage
      (⟨slots, .start memoize⟩ : Memory).probes := Probes.truthful_start _ memoize
  obtain ⟨found, hfinishes, hnodup, hmem⟩ := exists_finishes_wanted hplain root withFolders
  obtain ⟨other, htells, hotherNodup, hotherMem⟩ := exists_tells_wanted hplain root withFolders
  obtain ⟨n, memory, -, hturns⟩ := hfinishes [] [] _ hmemory
  have hnames : ∀ names ∈ found, ∀ name ∈ names, IsName name := fun names h =>
    ((hmem names).1 h).plain
  have hentries : (workList [] found).entries = (found.mergeSort namesInOrder).map namesPath :=
    mergeSort_map_namesPath hnames
  refine ⟨n, workList [] found, memory, ⟨rfl, fun m => ?_⟩, ?_, fun p => ?_, ?_⟩
  · have hstart : WorkList.start = workList ([[]] ++ []) [] := rfl
    rw [turns_add, hstart, hturns, List.nil_append]
    exact turns_of_pending_nil rfl m memory
  · rw [hentries]
    exact pairwise_map_namesPath (fun names h => hnames names (List.mem_mergeSort.1 h))
      (pairwise_mergeSort_namesInOrder hnodup)
  · rw [hentries]
    simp only [List.mem_map, List.mem_mergeSort, hmem]
    exact exists_congr fun names => and_comm.trans (and_congr_left' eq_comm)
  · have hsame := mergeSort_namesInOrder_congr hnodup hotherNodup fun names =>
      (hmem names).trans (hotherMem names).symm
    rw [hentries, walk_eq_of_tells htells hmemory, hsame]

-- A file is no way to what lies below it.
example :
    let storage := ofAdditions [.file (.ofString "d/x") [], .file (.ofString "d/x/y") [],
      .folder (.ofString "d/e/f")]
    (WorkList.turns storage.toStorage (.ofString "d") true 3 .start (.start true)).1 =
      ⟨[], [.ofString "e", .ofString "x", .ofString "e/f"]⟩ := by
  decide

end Ends

end MemoryStorage

end CsvSchema
