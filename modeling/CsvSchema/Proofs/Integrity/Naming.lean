import CsvSchema.Proofs.Queries
import CsvSchema.Proofs.Storage.Folders

/-!
# What a value names in a folder

An integrity check looks a value up in its folder.  What the value names is said here by the parts
of paths alone; the lookup, which goes by texts and through a cache, comes to the same,
`exists_tells_findBelow`.
-/

namespace CsvSchema

open Memory

/-- The text by which a value names something: `./` in front of it does not count. -/
def namedText (value : String) : String :=
  String.ofList (Text.dropStartRepeatedly "./".toList value.toList)

/-- A value names what `parts` lead to below a folder, as a path in the folder or as an absolute
one. -/
structure Names (root : Path) (value : String) (parts : List PathPart) : Prop where
  nonempty : namedText value ≠ ""
  stays : (FileText.path (namedText value)).leadsUp = false
  below : (root.join (FileText.path (namedText value))).parts = root.parts ++ parts

/-- An integrity check wants every file to be named, and folders only if it includes them. -/
def FolderRule.Wants (rule : FolderRule) (entry : StorageEntry) : Prop :=
  entry = .folder → rule = .includeFolder

theorem FolderRule.wants_iff {rule : FolderRule} {entry : StorageEntry} :
    rule.Wants entry ↔ (rule = .excludeFolder && entry == .folder) = false := by
  cases rule <;> simp [Wants]

/-- A value names an entry below a folder that an integrity check wants to be named. -/
structure MemoryStorage.NamesEntry (storage : MemoryStorage) (root : Path) (rule : FolderRule)
    (value : String) (parts : List PathPart) : Prop where
  inside : parts ≠ []
  named : Names root value parts
  wanted : ∃ entry, storage.entryBelow? root parts = some entry ∧ rule.Wants entry

/-- A value that is looked up at `target` is found there, below a folder, and wanted. -/
def MemoryStorage.NamesEntryAt (storage : MemoryStorage) (root target : Path) (rule : FolderRule)
    (value : String) (parts : List PathPart) : Prop :=
  namedText value ≠ "" ∧ (FileText.path (namedText value)).leadsUp = false ∧
    root.below? target = some parts ∧ parts ≠ [] ∧
    ∃ entry, storage.entries.get? target.parts = some entry ∧ rule.Wants entry

/-- What a value names is looked up where its path in the folder leads. -/
theorem MemoryStorage.namesEntry_iff {storage : MemoryStorage} {root : Path} {rule : FolderRule}
    {value : String} {parts : List PathPart} :
    storage.NamesEntry root rule value parts ↔
      storage.NamesEntryAt root (root.join (FileText.path (namedText value))) rule value parts := by
  rw [NamesEntryAt, Path.below?, Text.dropStart?_eq_some_iff]
  constructor
  · intro h
    refine ⟨h.named.nonempty, h.named.stays, h.named.below, h.inside, ?_⟩
    rw [h.named.below]
    exact h.wanted
  · rintro ⟨hempty, hup, hbelow, hne, hwanted⟩
    rw [hbelow] at hwanted
    exact ⟨hne, ⟨hempty, hup, hbelow⟩, hwanted⟩

/-- A value names some entry that is wanted. -/
def MemoryStorage.Accepts (storage : MemoryStorage) (root : Path) (rule : FolderRule)
    (value : String) : Prop := ∃ parts, storage.NamesEntry root rule value parts

/-- An entry that an integrity check wants some value to name: it is reached from the folder. -/
structure MemoryStorage.Awaits (storage : MemoryStorage) (root : Path) (rule : FolderRule)
    (names : List (List Char)) : Prop where
  reached : Reached storage root [] names
  wanted : ∃ entry, storage.entryBelow? root (Path.nameParts names) = some entry ∧
    rule.Wants entry

theorem MemoryStorage.awaits_iff {storage : MemoryStorage} {root : Path} {rule : FolderRule}
    {names : List (List Char)} :
    storage.Awaits root rule names ↔ Reached storage root [] names ∧
      (storage.entryBelow? root (Path.nameParts names) = some .folder → rule = .includeFolder) := by
  constructor
  · rintro ⟨hreached, entry, hentry, hwants⟩
    rw [hentry, Option.some.injEq]
    exact ⟨hreached, hwants⟩
  · rintro ⟨hreached, hwants⟩
    obtain ⟨entry, hentry⟩ := Option.isSome_iff_exists.1 hreached.isSome
    rw [hentry, Option.some.injEq] at hwants
    exact ⟨hreached, entry, hentry, hwants⟩

/-- A value that leads to an awaited entry names an entry that is wanted. -/
theorem MemoryStorage.Awaits.namesEntry {storage : MemoryStorage} {root : Path} {rule : FolderRule}
    {names : List (List Char)} (h : storage.Awaits root rule names) {value : String}
    (hnames : Names root value (Path.nameParts names)) :
    storage.NamesEntry root rule value (Path.nameParts names) := by
  obtain ⟨name, rest, rfl⟩ := h.reached.exists_eq_append
  exact ⟨List.cons_ne_nil _ _, hnames, h.wanted⟩

instance (rule : FolderRule) (entry : StorageEntry) : Decidable (rule.Wants entry) :=
  inferInstanceAs (Decidable (entry = .folder → rule = .includeFolder))

theorem MemoryStorage.accepts_iff {storage : MemoryStorage} {root : Path} {rule : FolderRule}
    {value : String} :
    storage.Accepts root rule value ↔
      namedText value ≠ "" ∧ (FileText.path (namedText value)).leadsUp = false ∧
        (∃ parts ∈ root.below? (root.join (FileText.path (namedText value))), parts ≠ []) ∧
        ∃ entry ∈ storage.entries.get? (root.join (FileText.path (namedText value))).parts,
          rule.Wants entry := by
  simp only [Accepts, namesEntry_iff, NamesEntryAt, Option.mem_def]
  constructor
  · rintro ⟨parts, hempty, hup, hbelow, hne, hwanted⟩
    exact ⟨hempty, hup, ⟨parts, hbelow, hne⟩, hwanted⟩
  · rintro ⟨hempty, hup, ⟨parts, hbelow, hne⟩, hwanted⟩
    exact ⟨parts, hempty, hup, hbelow, hne, hwanted⟩

instance (storage : MemoryStorage) (root : Path) (rule : FolderRule) (value : String) :
    Decidable (storage.Accepts root rule value) :=
  decidable_of_iff _ MemoryStorage.accepts_iff.symm

theorem Names.eq {root : Path} {value : String} {parts parts' : List PathPart}
    (h : Names root value parts) (h' : Names root value parts') : parts = parts' :=
  List.append_cancel_left (h.below.symm.trans h'.below)

section Texts

theorem FileText.path_text {p : Path} (h : isFileUri p.chars = false) : path p.text = p := by
  simp only [path, Path.text, String.toList_ofList, h, Bool.false_eq_true, if_false,
    Path.ofString]

/-- What begins before a slash and has no slash ends before it. -/
theorem prefix_of_prefix_append {start s rest : List Char} (hslash : '/' ∉ start)
    (h : start <+: s ++ '/' :: rest) : start <+: s := by
  rcases List.prefix_or_prefix_of_prefix h (List.prefix_append s _) with hs | ⟨tail, rfl⟩
  · exact hs
  · rw [List.prefix_append_right_inj] at h
    cases tail with
    | nil => simp
    | cons c tail =>
        obtain ⟨rfl, -⟩ := List.cons_prefix_cons.1 h
        exact absurd (by simp) hslash

/-- A path in a folder is no file URI unless the folder is one. -/
theorem FileText.isFileUri_join {base rest : Path} (hbase : base.chars ≠ [])
    (h : isFileUri base.chars = false) : isFileUri (base.join rest).chars = false := by
  have hslash : '/' ∉ "file:".toList := by decide
  rw [← Bool.not_eq_true] at h ⊢
  simp only [isFileUri, List.isPrefixOf_iff_prefix] at h ⊢
  obtain ⟨s⟩ := base
  simp only at hbase h
  unfold Path.join
  split
  · rename_i habsolute
    intro huri
    -- A file URI does not begin with a slash.
    obtain ⟨tail, htail⟩ := huri
    simp [Path.isAbsolute, ← htail] at habsolute
  · split
    · rename_i hlast
      simp only [hbase, decide_false, Bool.false_or, decide_eq_true_eq] at hlast
      obtain ⟨front, rfl⟩ := List.getLast?_eq_some_iff.1 hlast
      intro huri
      rw [List.append_assoc, List.singleton_append] at huri
      exact h ((prefix_of_prefix_append hslash huri).trans (List.prefix_append front _))
    · intro huri
      exact h (prefix_of_prefix_append hslash huri)

end Texts

/-- What a value is answered that is looked up at `target`, when something is there. -/
def MemoryStorage.answerBelow (storage : MemoryStorage) (root target : Path) (rule : FolderRule) :
    Except String (List PathPart) :=
  match root.below? target with
  | some (part :: parts) =>
      if rule = .excludeFolder && storage.isFolder target then .error "is a folder"
      else .ok (part :: parts)
  | _ => .error ("outside of " ++ root.text)

/-- What a value is answered that is looked up at `target`. -/
def MemoryStorage.answer (storage : MemoryStorage) (root target : Path) (rule : FolderRule)
    (value : String) : Except String (List PathPart) :=
  if namedText value = "" || (FileText.path (namedText value)).leadsUp then
    .error ("not a path below " ++ root.text)
  else if storage.has target then storage.answerBelow root target rule
  else .error "file not found"

theorem MemoryStorage.answerBelow_eq_ok_iff {storage : MemoryStorage} {root target : Path}
    {rule : FolderRule} {entry : StorageEntry} {parts : List PathPart}
    (h : storage.entries.get? target.parts = some entry) :
    storage.answerBelow root target rule = .ok parts ↔
      root.below? target = some parts ∧ parts ≠ [] ∧ rule.Wants entry := by
  have hfolder : storage.isFolder target = (entry == .folder) := by
    simp [isFolder, h]
  unfold answerBelow
  split
  · rename_i part rest hbelow
    rw [hfolder, hbelow, Option.some.injEq, FolderRule.wants_iff]
    split
    · rename_i hunwanted
      simp [hunwanted]
    · rename_i hwanted
      rw [Bool.not_eq_true] at hwanted
      rw [hwanted, Except.ok.injEq]
      constructor
      · rintro rfl
        exact ⟨rfl, List.cons_ne_nil _ _, rfl⟩
      · exact And.left
  · -- Below the folder there has to be at least one more part.
    rename_i houtside
    refine iff_of_false (fun hok => by cases hok) ?_
    rintro ⟨hbelow, hne, -⟩
    obtain ⟨part, rest, rfl⟩ := List.exists_cons_of_ne_nil hne
    exact houtside part rest hbelow

theorem MemoryStorage.answer_eq_ok_iff {storage : MemoryStorage} {root target : Path}
    {rule : FolderRule} {value : String} {parts : List PathPart} :
    storage.answer root target rule value = .ok parts ↔
      storage.NamesEntryAt root target rule value parts := by
  unfold answer NamesEntryAt
  split
  · rename_i hrefused
    simp only [Bool.or_eq_true, decide_eq_true_eq] at hrefused
    refine iff_of_false (fun hok => by cases hok) ?_
    rintro ⟨hempty, hup, -⟩
    rcases hrefused with h | h
    · exact hempty h
    · rw [hup] at h
      cases h
  · rename_i haccepted
    simp only [Bool.or_eq_true, decide_eq_true_eq, not_or, Bool.not_eq_true] at haccepted
    rw [has, and_iff_right haccepted.1, and_iff_right haccepted.2]
    cases hentry : storage.entries.get? target.parts with
    | none => simp
    | some entry =>
        rw [Option.isSome_some, if_pos rfl, answerBelow_eq_ok_iff hentry]
        simp only [Option.some.injEq, exists_eq_left']

section Lookup

variable {storage : MemoryStorage} {scope : Scope}
  (hstorage : scope.environment.storage = storage.toStorage) (hfold : scope.fold = false)
include hstorage hfold

/-- With regard to case a text leads to its path or nowhere. -/
theorem located?_of_exact {text : String} {path : Path}
    (hpath : scope.environment.options.resolve (FileText.path text) = path) :
    scope.located? text = if storage.has path then some path else none := by
  simp only [Scope.located?, hpath, hstorage, hfold, Bool.false_eq_true, if_false]
  rfl

/-- The lookup of a value goes by texts, and what it tells is what the value is answered. -/
theorem tells_findBelow {root target : Path} (rule : FolderRule) {value : String}
    (htarget : scope.environment.options.resolve
      (FileText.path (root.join (FileText.path (namedText value))).text) = target) :
    Tells storage.toStorage (findBelow scope value root rule)
      (storage.answer root target rule value) := by
  have hlocate := tells_locate? storage.byParts hstorage
    (root.join (FileText.path (namedText value))).text
  rw [located?_of_exact hstorage hfold htarget] at hlocate
  have htext : String.ofList (Text.dropStartRepeatedly "./".toList value.toList) =
      namedText value := rfl
  unfold findBelow MemoryStorage.answer
  simp only [htext]
  split
  · exact .pure _
  · split
    · rename_i hhas
      rw [if_pos hhas] at hlocate
      refine hlocate.bind ?_
      unfold MemoryStorage.answerBelow
      simp only [hstorage]
      rcases root.below? target with _ | _ | ⟨part, rest⟩
      · exact .pure _
      · exact .pure _
      · change Tells _ (if rule = .excludeFolder && storage.isFolder target then _ else _)
          (if rule = .excludeFolder && storage.isFolder target then _ else _)
        split <;> exact .pure _
    · rename_i hhas
      rw [if_neg hhas] at hlocate
      exact hlocate.bind (.pure _)

/-- A value is accepted for what is found where it is looked up, and for nothing else. -/
theorem exists_tells_findBelow {root target : Path} (rule : FolderRule) {value : String}
    (htarget : scope.environment.options.resolve
      (FileText.path (root.join (FileText.path (namedText value))).text) = target) :
    ∃ answer, Tells storage.toStorage (findBelow scope value root rule) answer ∧
      ∀ parts, answer = .ok parts ↔ storage.NamesEntryAt root target rule value parts :=
  ⟨_, tells_findBelow hstorage hfold rule htarget, fun _ => MemoryStorage.answer_eq_ok_iff⟩

end Lookup

end CsvSchema
