import CsvSchema.Proofs.Verdict
import CsvSchema.Proofs.Integrity.Naming

/-!
# Integrity checks below a base folder

The folder of an integrity check starts from the base folder, and a value is looked up in that
folder.  The path of the value is relative if that of the folder is, and then it starts from the
base folder once more.  This leads to the same place if the base folder is absolute or is the
working folder, and then a value is accepted for what it names, `Session.validate_integrity_iff`.
-/

namespace CsvSchema

/-- A file URI begins neither like an absolute path nor like one in the working folder. -/
theorem FileText.isFileUri_of_head? {c : Char} {s : List Char} (h : s.head? = some c)
    (hc : c ≠ 'f') : isFileUri s = false := by
  cases s with
  | nil => cases h
  | cons d s =>
      obtain rfl : d = c := Option.some.inj h
      have hfirst : ('f' == d) = false := by simpa using hc.symm
      simp [isFileUri, List.isPrefixOf, hfirst]

/-- A path that started from the base folder leads to the same place if it starts from it once
more: it is absolute, or the base folder is the working folder. -/
def Options.Settles (options : Options) (path : Path) : Prop :=
  path.isAbsolute = true ∨
    ∀ base ∈ options.baseFolder, base = ⟨[]⟩ ∨ base.parts = [.here]

namespace Options

variable {options : Options} {path : Path}

theorem resolve_of_isAbsolute (options : Options) (h : path.isAbsolute = true) :
    options.resolve path = path := by
  unfold resolve
  split
  · exact Path.join_of_isAbsolute _ h
  · rfl

theorem Settles.isFileUri_resolve (h : options.Settles (options.resolve path))
    (hpath : FileText.isFileUri path.chars = false) :
    FileText.isFileUri (options.resolve path).chars = false := by
  rcases h with habsolute | hworking
  · exact FileText.isFileUri_of_head? (beq_iff_eq.1 habsolute) (by decide)
  · unfold resolve
    split
    · rename_i base hbase
      rcases hworking base hbase with rfl | hhere
      · rw [Path.nil_join]
        exact hpath
      · have hne : base.chars ≠ [] := Path.chars_ne_nil (by simp [hhere])
        exact FileText.isFileUri_join hne
          (FileText.isFileUri_of_head? (Path.head?_of_here hhere) (by decide))
    · exact hpath

/-- What is below a path that is settled is looked up where it is. -/
theorem Settles.parts_resolve_join (h : options.Settles (options.resolve path)) (rest : Path) :
    (options.resolve ((options.resolve path).join rest)).parts =
      ((options.resolve path).join rest).parts := by
  by_cases habsolute : ((options.resolve path).join rest).isAbsolute = true
  · rw [resolve_of_isAbsolute options habsolute]
  · rcases h with hroot | hworking
    · exact absurd (Path.isAbsolute_join hroot rest) habsolute
    · cases hbase : options.baseFolder with
      | none => simp only [resolve, hbase]
      | some base =>
          simp only [resolve, hbase, Bool.not_eq_true] at habsolute ⊢
          rcases hworking base hbase with rfl | hhere
          · rw [Path.nil_join]
          · have hroot : (base.join path).isAbsolute = false := by
              rw [Bool.eq_false_iff]
              intro hroot
              rw [Path.isAbsolute_join hroot rest] at habsolute
              cases habsolute
            -- The path and what is joined to it begin with the dot of the working folder.
            have hparts := Path.parts_join_of_here (Path.parts_join_of_here hhere hroot) habsolute
            rw [Path.parts_join (Path.chars_ne_nil (by simp [hhere])) habsolute, hhere,
              Path.parts_eq ((base.join path).join rest), Path.startParts_of_here hparts]

end Options

/-- An integrity check finds its folder at `root`, with regard to case. -/
structure Scope.FindsFolder (scope : Scope) (storage : MemoryStorage)
    (folder subfolder : Option Operand) (root : Path) : Prop where
  built : storage.Built
  storage_eq : scope.environment.storage = storage.toStorage
  noFold : scope.fold = false
  text : ∃ front back, scope.operandOr "" folder = .ok front ∧
    scope.operandOr "content" subfolder = .ok back ∧
    FileText.isFileUri (FileText.joined front back).toList = false ∧
    scope.environment.options.resolve (.ofString (FileText.joined front back)) = root
  isFolder : storage.isFolder root = true

/-- An integrity check that looks a value up at `target` accepts it. -/
def MemoryStorage.AcceptsAt (storage : MemoryStorage) (root target : Path) (rule : FolderRule)
    (value : String) : Prop := ∃ parts, storage.NamesEntryAt root target rule value parts

namespace Scope.FindsFolder

variable {scope : Scope} {storage : MemoryStorage} {folder subfolder : Option Operand}
  {root target : Path} (h : scope.FindsFolder storage folder subfolder root)
include h

/-- The folder that was found does not decide about a value, only what is found below it. -/
theorem findReference_eq_passed_iff {memory : Memory}
    (htruthful : memory.probes.Truthful storage.toStorage) (rule : FolderRule) (slot : Nat)
    {value : String}
    (htarget : scope.environment.options.resolve
      (FileText.path (root.join (FileText.path (namedText value))).text) = target) :
    (findReference scope value folder subfolder rule slot memory).1 = .passed ↔
      storage.AcceptsAt root target rule value := by
  obtain ⟨front, back, hfront, hback, huri, hroot⟩ := h.text
  have hpath : FileText.path (FileText.joined front back) =
      .ofString (FileText.joined front back) := by
    rw [FileText.path, huri, if_neg Bool.false_ne_true]
  have hlocate := tells_locate? storage.byParts h.storage_eq (FileText.joined front back)
  rw [located?_of_exact h.storage_eq h.noFold (hpath ▸ hroot),
    MemoryStorage.has_of_isFolder h.isFolder] at hlocate
  obtain ⟨hfound, -, hknown⟩ := hlocate memory htruthful
  obtain ⟨answer, hbelow, hanswer⟩ := exists_tells_findBelow h.storage_eq h.noFold rule htarget
  have hok : (do return (← (Except.ok front : Except OperandError String),
      ← (Except.ok back : Except OperandError String))) = Except.ok (front, back) := rfl
  simp only [findReference, hfront, hback, hok, Stateful.bind_apply, hfound, if_true]
  -- Noting the folder in the slot leaves alone what is known about files.
  have hanswered := (hbelow (Memory.refer slot ⟨scope.column, scope.severity, rule, .empty⟩ root
    none (scope.locate? (FileText.joined front back) memory).2).2 hknown).1
  rw [hanswered]
  cases answer with
  | error detail =>
      constructor
      · intro hpassed
        cases hpassed
      · rintro ⟨parts, hnames⟩
        cases (hanswer parts).2 hnames
  | ok parts => exact ⟨fun _ => ⟨parts, (hanswer parts).1 rfl⟩, fun _ => rfl⟩

/-- Where the base folder makes no difference, a value is looked up at its path in the folder. -/
theorem acceptsAt_iff (hsettles : scope.environment.options.Settles root) (rule : FolderRule)
    (value : String) :
    storage.AcceptsAt root (scope.environment.options.resolve
        (FileText.path (root.join (FileText.path (namedText value))).text)) rule value ↔
      storage.Accepts root rule value := by
  obtain ⟨front, back, -, -, huri, rfl⟩ := h.text
  have hne := h.built.plain.ne_nil_of_isFolder h.isFolder
  rw [FileText.path_text (FileText.isFileUri_join hne (hsettles.isFileUri_resolve huri))]
  have hplace := hsettles.parts_resolve_join (FileText.path (namedText value))
  simp only [MemoryStorage.AcceptsAt, MemoryStorage.Accepts, MemoryStorage.namesEntry_iff,
    MemoryStorage.NamesEntryAt, Path.below?, hplace]

end Scope.FindsFolder

namespace Session

/-- A value of an integrity check starts from the base folder after it was put behind the folder of
the check.  Where that leads to its path in the folder, the check holds exactly for the values that
name an entry of the folder that is wanted. -/
theorem validate_integrity_iff {storage : MemoryStorage} {environment : Environment} {row : Row}
    {session : Session} {folder subfolder : Option Operand} {root : Path}
    (hfolder : (session.scope environment row false).FindsFolder storage folder subfolder root)
    (htruthful : session.memory.probes.Truthful storage.toStorage) (level : Option Severity)
    (rule : FolderRule) (slot : Nat) (value : String) :
    ((validate environment row false level (.atom (.integrity folder subfolder rule slot)) value
        session).1 = true ↔
      storage.AcceptsAt root (environment.options.resolve
        (FileText.path (root.join (FileText.path (namedText value))).text)) rule value) ∧
    (environment.options.Settles root →
      ((validate environment row false level (.atom (.integrity folder subfolder rule slot)) value
          session).1 = true ↔ storage.Accepts root rule value)) := by
  have haccepts : (validate environment row false level
      (.atom (.integrity folder subfolder rule slot)) value session).1 = true ↔
        storage.AcceptsAt root (environment.options.resolve
          (FileText.path (root.join (FileText.path (namedText value))).text)) rule value := by
    rw [validate_atom_iff]
    exact hfolder.findReference_eq_passed_iff htruthful rule slot rfl
  exact ⟨haccepts, fun hsettles => haccepts.trans (hfolder.acceptsAt_iff hsettles rule value)⟩

/-- Below the absolute folder `/base`, the value `./a.txt` names a file in the folder `content`. -/
theorem validate_integrity_of_absolute_base :
    let storage := MemoryStorage.empty.addFile (.ofString "/base/content/a.txt") []
    let environment : Environment :=
      ⟨.initial, ⟨false, true, some (.ofString "/base")⟩, storage.toStorage⟩
    let session := Session.start true
    let root := Path.ofString "/base/content"
    ((session.scope environment ⟨[]⟩ false).FindsFolder storage none none root ∧
      session.memory.probes.Truthful storage.toStorage ∧ environment.options.Settles root ∧
      storage.Accepts root .excludeFolder "./a.txt") ∧
    (validate environment ⟨[]⟩ false none (.atom (.integrity none none .excludeFolder 0)) "./a.txt"
      session).1 = true := by
  intro storage environment session root
  have hfolder : (session.scope environment ⟨[]⟩ false).FindsFolder storage none none root :=
    ⟨.file .empty _ _, rfl, rfl, ⟨"", "content", rfl, rfl, by decide +kernel, by decide +kernel⟩,
      by decide +kernel⟩
  have htruthful : session.memory.probes.Truthful storage.toStorage :=
    Probes.truthful_start storage.toStorage true
  have hsettles : environment.options.Settles root := .inl (by decide +kernel)
  have haccepts : storage.Accepts root .excludeFolder "./a.txt" := by decide +kernel
  exact ⟨⟨hfolder, htruthful, hsettles, haccepts⟩,
    ((validate_integrity_iff hfolder htruthful none .excludeFolder 0 "./a.txt").2 hsettles).2
      haccepts⟩

/-- Below the relative folder `base`, the value `a.txt` names a file that is there, but it is looked
up at `base/base/content/a.txt`. -/
theorem not_validate_integrity_of_relative_base :
    let storage := MemoryStorage.empty.addFile (.ofString "base/content/a.txt") []
    let environment : Environment :=
      ⟨.initial, ⟨false, true, some (.ofString "base")⟩, storage.toStorage⟩
    let root := Path.ofString "base/content"
    environment.options.resolve (.ofString "content") = root ∧ storage.isFolder root = true ∧
      storage.Accepts root .excludeFolder "a.txt" ∧
      (validate environment ⟨[]⟩ false none (.atom (.integrity none none .excludeFolder 0)) "a.txt"
        (.start true)).1 = false := by
  decide +kernel

end Session

end CsvSchema
