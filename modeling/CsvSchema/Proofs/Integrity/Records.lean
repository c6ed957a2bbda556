import CsvSchema.Run.Validation
import CsvSchema.Proofs.Verdict
import CsvSchema.Proofs.Views
import CsvSchema.Proofs.Integrity.Naming

/-!
# Records under an integrity check

A schema of one column whose only check is an integrity check of a fixed folder.  A record is good
if its value names an entry of the folder that is wanted; then the entry is remembered, and
otherwise there is one message.  That is all a record does, `FolderCheck.recorded_validateRecord`.
-/

namespace CsvSchema

open Memory Stateful

/-- An integrity check of a column, of a folder that does not depend on the record. -/
structure FolderCheck where
  column : String
  folder : Option String
  subfolder : Option String
  rule : FolderRule
  slot : Nat

namespace FolderCheck

/-- The check itself. -/
def atom (c : FolderCheck) : Atom :=
  .integrity (c.folder.map .literal) (c.subfolder.map .literal) c.rule c.slot

/-- The folder that is checked. -/
def root (c : FolderCheck) : Path :=
  .ofString (FileText.joined (c.folder.getD "") (c.subfolder.getD "content"))

/-- The check in a rule, bare or as a single expression of the column itself. -/
inductive IsCheck (c : FolderCheck) : Check → Prop
  | bare : IsCheck c (.atom c.atom)
  | single : IsCheck c (.single none (.atom c.atom))

/-- The schema has one column, without directives, and the check is all of its rule. -/
def IsSchema (c : FolderCheck) (schema : Schema) : Prop :=
  ∃ check, c.IsCheck check ∧ schema.columns = [⟨c.column, ⟨[check], .initial⟩⟩]

/-- The folder of the check is there, and it is looked up as it is written. -/
structure Applies (c : FolderCheck) (options : Options) (storage : MemoryStorage) : Prop where
  noBase : options.baseFolder = none
  noFold : options.ignoreCase = false
  built : storage.Built
  noUri : FileText.isFileUri c.root.chars = false
  isFolder : storage.isFolder c.root = true

variable (c : FolderCheck)

/-- What the check remembers when records have named some entries. -/
def references (named : List (List PathPart)) : References :=
  ⟨c.column, .error, c.rule, OrderedMap.empty.insert c.root.parts (c.root, named)⟩

/-- The memory of a run knows the truth about files and what records have named. -/
structure Remembers (storage : MemoryStorage) (named : List (List PathPart)) (memory : Memory) :
    Prop where
  truthful : memory.probes.Truthful storage.toStorage
  slots : memory.slots = OrderedMap.empty.insert c.slot (.references (c.references named))

/-- Before the first record the memory of a run is empty. -/
inductive Ready (storage : MemoryStorage) : List (List PathPart) → Memory → Prop
  | start {memory : Memory} (truthful : memory.probes.Truthful storage.toStorage)
      (slots : memory.slots = OrderedMap.empty) : Ready storage [] memory
  | inside {named : List (List PathPart)} {memory : Memory}
      (h : c.Remembers storage named memory) : Ready storage named memory

section Memories

variable {c} {storage : MemoryStorage} {named : List (List PathPart)} {memory : Memory}

theorem Ready.truthful (h : c.Ready storage named memory) :
    memory.probes.Truthful storage.toStorage := by
  cases h with
  | start htruthful _ => exact htruthful
  | inside h => exact h.truthful

/-- A question about files leaves the memory ready. -/
theorem Ready.tells {α : Type} {action : StateM Memory α} {answer : α}
    (h : c.Ready storage named memory) (htells : Tells storage.toStorage action answer) :
    c.Ready storage named (action memory).2 := by
  obtain ⟨-, hslots, htruthful⟩ := htells memory h.truthful
  cases h with
  | start _ hempty => exact .start htruthful (hslots.trans hempty)
  | inside h => exact .inside ⟨htruthful, hslots.trans h.slots⟩

theorem Remembers.tells {α : Type} {action : StateM Memory α} {answer : α}
    (h : c.Remembers storage named memory) (htells : Tells storage.toStorage action answer) :
    c.Remembers storage named (action memory).2 := by
  obtain ⟨-, hslots, htruthful⟩ := htells memory h.truthful
  exact ⟨htruthful, hslots.trans h.slots⟩

theorem add_references (path : Option (List PathPart)) :
    References.add (c.references named) c.root path = c.references (addPath path named) := by
  simp only [References.add, references, References.mk.injEq, true_and]
  refine OrderedMap.eq_of_get?_eq fun key => ?_
  simp only [OrderedMap.get?_alter, OrderedMap.get?_insert, if_true, Option.getD_some,
    OrderedMap.get?_empty]
  split <;> rfl

/-- Looking at the folder notes what was named. -/
theorem Ready.refer (h : c.Ready storage named memory) (path : Option (List PathPart)) :
    c.Remembers storage (addPath path named)
      (Memory.refer c.slot ⟨c.column, .error, c.rule, .empty⟩ c.root path memory).2 := by
  refine ⟨h.truthful, OrderedMap.eq_of_get?_eq fun key => ?_⟩
  rw [Memory.refer, get?_useSlot, OrderedMap.get?_insert]
  split
  · cases h with
    | start _ hempty =>
        rw [hempty]
        rfl
    | inside h =>
        rw [h.slots, OrderedMap.get?_insert, if_pos rfl]
        exact congrArg (some ∘ SlotMemory.references) (add_references path)
  · rename_i hkey
    cases h with
    | start _ hempty => rw [hempty]
    | inside h => rw [h.slots, OrderedMap.get?_insert, if_neg hkey]

end Memories

section Evaluation

variable {c} {options : Options} {storage : MemoryStorage} (happlies : c.Applies options storage)
include happlies

theorem Applies.root_ne_nil : c.root.chars ≠ [] :=
  happlies.built.plain.ne_nil_of_isFolder happlies.isFolder

variable {scope : Scope} (hstorage : scope.environment.storage = storage.toStorage)
  (hoptions : scope.environment.options = options) (hfold : scope.fold = false)
include hstorage hoptions hfold

/-- The folder is always found. -/
theorem tells_locate_root :
    Tells storage.toStorage
      (scope.locate? (FileText.joined (c.folder.getD "") (c.subfolder.getD "content")))
      (some c.root) := by
  have hroot : scope.environment.options.resolve
      (FileText.path (FileText.joined (c.folder.getD "") (c.subfolder.getD "content"))) =
        c.root := by
    rw [hoptions, Options.resolve, happlies.noBase, FileText.path, if_neg]
    · rfl
    · rw [Bool.not_eq_true]
      exact happlies.noUri
  have hlocate := tells_locate? storage.byParts hstorage
    (FileText.joined (c.folder.getD "") (c.subfolder.getD "content"))
  rw [located?_of_exact hstorage hfold hroot,
    MemoryStorage.has_of_isFolder happlies.isFolder] at hlocate
  exact hlocate

/-- What a record does to the memory: an entry that it names is remembered. -/
inductive Looked (c : FolderCheck) (storage : MemoryStorage) (value : String)
    (named : List (List PathPart)) : Finding → Memory → Prop
  | good {parts : List PathPart} {memory : Memory}
      (hnames : storage.NamesEntry c.root c.rule value parts)
      (hmemory : c.Remembers storage (addPath (some parts) named) memory) :
      Looked c storage value named .passed memory
  | bad {detail : Option String} {memory : Memory}
      (hnames : ∀ parts, ¬storage.NamesEntry c.root c.rule value parts)
      (hmemory : c.Remembers storage named memory) :
      Looked c storage value named (.failed detail) memory

theorem looked_evaluate (hcolumn : scope.column = c.column) (hseverity : scope.severity = .error)
    {named : List (List PathPart)} {memory : Memory} (h : c.Ready storage named memory)
    (value : String) :
    Looked c storage value named (c.atom.evaluate scope value memory).1
      (c.atom.evaluate scope value memory).2 := by
  have htarget : scope.environment.options.resolve
      (FileText.path (c.root.join (FileText.path (namedText value))).text) =
        c.root.join (FileText.path (namedText value)) := by
    rw [FileText.path_text (FileText.isFileUri_join happlies.root_ne_nil happlies.noUri), hoptions,
      Options.resolve, happlies.noBase]
  have hoperands : ∀ (default : String) (text : Option String),
      scope.operandOr default (text.map .literal) = .ok (text.getD default) := by
    intro default text
    cases text <;> rfl
  have hlocate := tells_locate_root happlies hstorage hoptions hfold
  have hlocated := h.tells hlocate
  have hfound := (hlocate memory h.truthful).1
  obtain ⟨answer, hbelow, hanswer⟩ := exists_tells_findBelow hstorage hfold c.rule htarget
  simp only [← MemoryStorage.namesEntry_iff] at hanswer
  have hok : ∀ (text : String) (next : String → Except OperandError (String × String)),
      (Except.ok text >>= next) = next text := fun _ _ => rfl
  have hpure : ∀ texts : String × String, (pure texts : Except OperandError _) = .ok texts :=
    fun _ => rfl
  simp only [FolderCheck.atom, Atom.evaluate, findReference, hoperands, hok, hpure, hcolumn,
    hseverity, bind_apply, hfound]
  generalize (scope.locate? _ memory).2 = located at hlocated ⊢
  -- The folder is noted before anything in it is looked for.
  have hnoted := hlocated.refer none
  generalize (Memory.refer c.slot _ c.root none located).2 = noted at hnoted ⊢
  have hasked := hnoted.tells hbelow
  have hanswered := (hbelow noted hnoted.truthful).1
  rw [hanswered]
  cases answer with
  | error detail =>
      refine .bad (fun parts hnames => ?_) hasked
      cases (hanswer parts).2 hnames
  | ok parts => exact .good ((hanswer parts).1 rfl) ((Ready.inside hasked).refer (some parts))

end Evaluation

section Sessions

/-- What a record does to a session: it moves on to the next line, and there is one message if the
record is bad. -/
inductive Recorded (storage : MemoryStorage) (value : String) (named : List (List PathPart))
    (before : Session) : Session → Prop
  | good {parts : List PathPart} {memory : Memory}
      (hnames : storage.NamesEntry c.root c.rule value parts)
      (hmemory : c.Remembers storage (addPath (some parts) named) memory) :
      Recorded storage value named before ⟨before.line + 1, c.column, .error, before.report, memory⟩
  | bad {memory : Memory} (message : String)
      (hnames : ∀ parts, ¬storage.NamesEntry c.root c.rule value parts)
      (hmemory : c.Remembers storage named memory) :
      Recorded storage value named before
        (Session.push ⟨before.line + 1, c.column, .error, before.report, memory⟩ .error message)

variable {c}

theorem IsCheck.evaluate {check : Check} (h : c.IsCheck check) (scope : Scope) (value : String)
    (memory : Memory) :
    check.evaluate scope value memory =
      ((c.atom.evaluate scope value memory).1.verdict (.atom c.atom) value,
        (c.atom.evaluate scope value memory).2) := by
  cases h with
  | bare =>
      unfold Check.evaluate
      rfl
  | single =>
      unfold Check.evaluate
      unfold Check.evaluate
      rfl

variable {options : Options} {storage : MemoryStorage} (happlies : c.Applies options storage)
include happlies

theorem recorded_validateRecord {schema : Schema} (hschema : c.IsSchema schema)
    {named : List (List PathPart)} {session : Session}
    (h : c.Ready storage named session.memory) (value : String) :
    c.Recorded storage value named session
      (schema.validateRecord ⟨schema.settings, options, storage.toStorage⟩ [value] session).2 := by
  obtain ⟨check, hcheck, hcolumns⟩ := hschema
  have hkeys : schema.columnKeys = [schema.settings.columnKey c.column] := by
    rw [Schema.columnKeys, hcolumns]
    rfl
  have hfield : (Row.ofFields [schema.settings.columnKey c.column] [value]).get?
      (schema.settings.columnKey c.column) = some value := by
    simp [Row.ofFields, Row.get?]
  have hfold : (options.ignoreCase || ColumnSettings.initial.ignoreCase) = false := by
    rw [happlies.noFold]
    rfl
  -- The record is one field, and its rule is the one check.
  simp only [Schema.validateRecord, Session.advance, Session.validateColumns, Session.validateRule,
    Session.enter, hcolumns, hkeys, hfield, bind_apply, pure_apply, modify_apply,
    mapM_cons_apply, mapM_nil_apply]
  generalize Row.ofFields _ [value] = row
  let environment : Environment := ⟨schema.settings, options, storage.toStorage⟩
  let entered : Session := ⟨session.line + 1, c.column, .error, session.report, session.memory⟩
  change c.Recorded storage value named session
    (Session.validate environment row (options.ignoreCase || ColumnSettings.initial.ignoreCase)
      (some .error) check value entered).2
  rw [hfold, Session.validate_eq_settle, hcheck.evaluate]
  have hstorage : (entered.scope environment row false).environment.storage = storage.toStorage :=
    rfl
  have hoptions : (entered.scope environment row false).environment.options = options := rfl
  have hlooked := looked_evaluate happlies hstorage hoptions rfl rfl rfl h value
  generalize (c.atom.evaluate _ value session.memory).1 = finding at hlooked ⊢
  generalize (c.atom.evaluate _ value session.memory).2 = memory at hlooked ⊢
  cases hlooked with
  | good hnames hmemory => exact .good hnames hmemory
  | bad hnames hmemory => exact .bad _ hnames hmemory

end Sessions

end FolderCheck

end CsvSchema
