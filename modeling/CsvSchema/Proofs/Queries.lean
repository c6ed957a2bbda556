import CsvSchema.Run.Atomic
import CsvSchema.Run.Walk
import CsvSchema.Storage.Memory
import CsvSchema.Proofs.Stateful

/-!
# Questions about files

A run may answer a question from what it remembers.  As long as the storage does not change and
answers by the parts of a path, what it remembers is what the storage would say, so it cannot be
told from an answer whether it was remembered: `Tells` fixes the answer once and for all.
-/

namespace CsvSchema

/-- The answers of a storage depend on the parts of paths, not on their spelling. -/
structure Storage.ByParts (storage : Storage) : Prop where
  has : ∀ {p q : Path}, p.parts = q.parts → storage.has p = storage.has q
  list? : ∀ {p q : Path}, p.parts = q.parts → storage.list? p = storage.list? q
  read? : ∀ {p q : Path}, p.parts = q.parts → storage.read? p = storage.read? q

theorem MemoryStorage.byParts (storage : MemoryStorage) : storage.toStorage.ByParts where
  has h := by simp only [toStorage, MemoryStorage.has, h]
  list? {p q} h := by
    have hfolder : storage.isFolder p = storage.isFolder q := by simp only [isFolder, h]
    simp only [toStorage, list, hfolder, h]
    cases storage.isFolder q <;> rfl
  read? h := by
    simp only [toStorage, read, h]
    generalize storage.entries.get? _ = entry
    rcases entry with _ | _ | bytes <;> rfl

/-- A path that is not there is looked for by its parts. -/
theorem Storage.ByParts.resolveCaseless? {storage : Storage} (h : storage.ByParts) {p q : Path}
    (hparts : p.parts = q.parts) (hp : storage.has p = false) :
    storage.resolveCaseless? p = storage.resolveCaseless? q := by
  have hq : storage.has q = false := by rw [← h.has hparts, hp]
  simp only [Storage.resolveCaseless?, hp, hq, hparts, Bool.false_eq_true, if_false]

/-- All that a table remembers is true. -/
def Faithful {κ β : Type} [BEq κ] (truth : κ → β → Prop) (known : List (κ × β)) : Prop :=
  ∀ key answer, known.lookup key = some answer → truth key answer

section Tables

variable {κ β : Type} [BEq κ] [LawfulBEq κ] {truth : κ → β → Prop} {known : List (κ × β)}

/-- A table without lies gives the only true answer and stays without lies. -/
theorem Faithful.askOnce (h : Faithful truth known) (key : κ) (answer : Unit → β)
    (htrue : truth key (answer ())) (honly : ∀ b, truth key b → b = answer ()) :
    (askOnce known key answer).1 = answer () ∧ Faithful truth (askOnce known key answer).2 := by
  unfold CsvSchema.askOnce
  cases hknown : known.lookup key with
  | some remembered => exact ⟨honly remembered (h key remembered hknown), h⟩
  | none =>
      -- The table grows by the fresh answer, which is true of its key.
      refine ⟨rfl, fun k b hb => ?_⟩
      rw [List.lookup_cons] at hb
      cases hk : k == key with
      | true =>
          simp only [hk, Option.some.injEq] at hb
          rw [← hb, eq_of_beq hk]
          exact htrue
      | false =>
          simp only [hk] at hb
          exact h k b hb

end Tables

variable (storage : Storage)

/-- All answers in a cache are those of the storage.  Spellings are only looked for where nothing
has the exact path. -/
structure ProbeCache.Truthful (cache : ProbeCache) : Prop where
  existence : Faithful (fun parts answer => ∀ path : Path, path.parts = parts →
    answer = storage.has path) cache.existence
  listings : Faithful (fun parts answer => ∀ path : Path, path.parts = parts →
    answer = storage.list? path) cache.listings
  digests : Faithful (fun key answer => ∀ path : Path, path.parts = key.1 →
    answer = Probes.freshDigest? storage path key.2) cache.digests
  spellings : Faithful (fun parts answer => ∀ path : Path, path.parts = parts →
    storage.has path = false → answer = storage.resolveCaseless? path) cache.spellings

namespace Probes

/-- What a run remembers about files, if it remembers anything, is true. -/
def Truthful : Probes → Prop
  | none => True
  | some cache => cache.Truthful storage

theorem truthful_start (memoize : Bool) : Truthful storage (start memoize) := by
  cases memoize with
  | false => trivial
  | true =>
      constructor <;>
        · intro key answer h
          cases h

end Probes

namespace Memory

/-- An action on the memory of a run asks about files and nothing else: from any memory without lies
it gets `answer`, and it leaves the slots as they are. -/
def Tells {α : Type} (action : StateM Memory α) (answer : α) : Prop :=
  ∀ memory : Memory, memory.probes.Truthful storage →
    (action memory).1 = answer ∧ (action memory).2.slots = memory.slots ∧
      (action memory).2.probes.Truthful storage

variable {storage}

namespace Tells

variable {α β : Type}

theorem pure (answer : α) : Tells storage (pure answer) answer :=
  fun _ h => ⟨rfl, rfl, h⟩

theorem bind {action : StateM Memory α} {next : α → StateM Memory β} {a : α} {b : β}
    (h : Tells storage action a) (hnext : Tells storage (next a) b) :
    Tells storage (action >>= next) b := by
  intro memory hmemory
  obtain ⟨hanswer, hslots, htruthful⟩ := h memory hmemory
  rw [Stateful.bind_apply, hanswer]
  obtain ⟨hanswer', hslots', htruthful'⟩ := hnext _ htruthful
  exact ⟨hanswer', hslots'.trans hslots, htruthful'⟩

/-- A question that is answered truly from a true cache. -/
theorem probe {question : StateM Probes α} {answer : α}
    (h : ∀ probes, probes.Truthful storage →
      (question probes).1 = answer ∧ (question probes).2.Truthful storage) :
    Tells storage (probe question) answer := by
  intro memory hmemory
  obtain ⟨hanswer, htruthful⟩ := h memory.probes hmemory
  exact ⟨hanswer, rfl, htruthful⟩

end Tells

section Questions

variable (hstorage : storage.ByParts)
include hstorage

theorem tells_has (path : Path) :
    Tells storage (probe (Probes.has storage path)) (storage.has path) := by
  refine .probe fun probes h => ?_
  cases probes with
  | none => exact ⟨rfl, trivial⟩
  | some cache =>
      obtain ⟨hanswer, htable⟩ := h.existence.askOnce path.parts
        (fun _ => storage.has path) (fun p hp => hstorage.has hp.symm)
        fun b hb => hb path rfl
      exact ⟨hanswer, { h with existence := htable }⟩

theorem tells_list? (path : Path) :
    Tells storage (probe (Probes.list? storage path)) (storage.list? path) := by
  refine .probe fun probes h => ?_
  cases probes with
  | none => exact ⟨rfl, trivial⟩
  | some cache =>
      obtain ⟨hanswer, htable⟩ := h.listings.askOnce path.parts
        (fun _ => storage.list? path) (fun p hp => hstorage.list? hp.symm)
        fun b hb => hb path rfl
      exact ⟨hanswer, { h with listings := htable }⟩

theorem tells_digest? (path : Path) (algorithm : HashAlgorithm) :
    Tells storage (probe (Probes.digest? storage path algorithm))
      (Probes.freshDigest? storage path algorithm) := by
  refine .probe fun probes h => ?_
  cases probes with
  | none => exact ⟨rfl, trivial⟩
  | some cache =>
      obtain ⟨hanswer, htable⟩ := h.digests.askOnce (path.parts, algorithm)
        (fun _ => Probes.freshDigest? storage path algorithm)
        (fun p hp => by simp only [Probes.freshDigest?, hstorage.read? hp.symm])
        fun b hb => hb path rfl
      exact ⟨hanswer, { h with digests := htable }⟩

theorem tells_resolveCaseless? {path : Path} (habsent : storage.has path = false) :
    Tells storage (probe (Probes.resolveCaseless? storage path))
      (storage.resolveCaseless? path) := by
  refine .probe fun probes h => ?_
  cases probes with
  | none => exact ⟨rfl, trivial⟩
  | some cache =>
      obtain ⟨hanswer, htable⟩ := h.spellings.askOnce path.parts
        (fun _ => storage.resolveCaseless? path)
        (fun p hp _ => hstorage.resolveCaseless? hp.symm habsent)
        fun b hb => hb path rfl habsent
      exact ⟨hanswer, { h with spellings := htable }⟩

end Questions

variable (storage) in
/-- An action that only asks about files gets the same answer in every run. -/
def IsQuery {α : Type} (action : StateM Memory α) : Prop := ∃ answer, Tells storage action answer

namespace IsQuery

variable {α β : Type}

theorem pure (answer : α) : IsQuery storage (pure answer) := ⟨answer, .pure answer⟩

theorem bind {action : StateM Memory α} {next : α → StateM Memory β} (h : IsQuery storage action)
    (hnext : ∀ a, IsQuery storage (next a)) : IsQuery storage (action >>= next) := by
  obtain ⟨a, ha⟩ := h
  obtain ⟨b, hb⟩ := hnext a
  exact ⟨b, ha.bind hb⟩

end IsQuery

end Memory

/-- Where a text leads, if anything is there, according to the storage. -/
def Scope.located? (scope : Scope) (text : String) : Option Path :=
  let path := scope.environment.options.resolve (FileText.path text)
  if scope.fold then scope.environment.storage.resolveCaseless? path
  else if scope.environment.storage.has path then some path
  else none

section Queries

open Memory

variable {storage} (hstorage : storage.ByParts)
include hstorage

/-- Where a text leads is told by the storage alone. -/
theorem tells_locate? {scope : Scope} (hscope : scope.environment.storage = storage)
    (text : String) : Tells storage (scope.locate? text) (scope.located? text) := by
  subst hscope
  unfold Scope.locate? Scope.located?
  simp only
  generalize scope.environment.options.resolve (FileText.path text) = path
  have hknown := tells_has hstorage path
  cases hhas : scope.environment.storage.has path with
  | true =>
      rw [hhas] at hknown
      simp only [Storage.resolveCaseless?, hhas, if_true, ite_self]
      exact hknown.bind (.pure (some path))
  | false =>
      -- The answer is known to be no, and only then other spellings are looked for.
      rw [hhas] at hknown
      refine hknown.bind ?_
      simp only [Bool.false_eq_true, if_false]
      split
      · exact tells_resolveCaseless? hstorage hhas
      · exact .pure none

theorem isQuery_locate? {scope : Scope} (hscope : scope.environment.storage = storage)
    (text : String) : IsQuery storage (scope.locate? text) :=
  ⟨_, tells_locate? hstorage hscope text⟩

theorem isQuery_findFile {scope : Scope} (hscope : scope.environment.storage = storage)
    (value : String) (folder : Option Operand) : IsQuery storage (findFile scope value folder) := by
  unfold findFile
  split
  · exact .pure _
  · exact (isQuery_locate? hstorage hscope _).bind fun _ => .pure _

theorem isQuery_findChecksum {scope : Scope} (hscope : scope.environment.storage = storage)
    (value : String) (file : Operand) (algorithm : HashAlgorithm) :
    IsQuery storage (findChecksum scope value file algorithm) := by
  unfold findChecksum
  split
  · exact .pure _
  · refine (isQuery_locate? hstorage hscope _).bind fun found => ?_
    cases found with
    | none => exact .pure _
    | some path =>
        -- What comes next depends on the path, but the path itself is the same in every run.
        rw [hscope]
        refine IsQuery.bind ⟨_, tells_digest? hstorage path algorithm⟩ fun digest => ?_
        cases digest with
        | none => exact .pure _
        | some digest => exact .pure _

theorem isQuery_findCount {scope : Scope} (hscope : scope.environment.storage = storage)
    (value : String) (folder : Operand) : IsQuery storage (findCount scope value folder) := by
  unfold findCount
  split
  · exact .pure _
  · refine (isQuery_locate? hstorage hscope _).bind fun found => ?_
    cases found with
    | none => exact .pure _
    | some path =>
        rw [hscope]
        exact IsQuery.bind ⟨_, tells_list? hstorage path⟩ fun listing => .pure _

theorem isQuery_findBelow {scope : Scope} (hscope : scope.environment.storage = storage)
    (value : String) (root : Path) (rule : FolderRule) :
    IsQuery storage (findBelow scope value root rule) := by
  unfold findBelow
  simp only
  split
  · exact .pure _
  · refine (isQuery_locate? hstorage hscope _).bind fun found => ?_
    cases found with
    | none => exact .pure _
    | some path =>
        simp only
        split
        · split
          · exact .pure _
          · exact .pure _
        · exact .pure _

end Queries

section Walking

open Memory

variable {storage}

mutual

theorem isQuery_walkFolder (hstorage : storage.ByParts) (root : Path) (withFolders : Bool)
    (depth : Nat) (names : List (List Char)) :
    IsQuery storage (walkFolder storage root withFolders depth names) := by
  cases depth with
  | zero =>
      unfold walkFolder
      exact .pure []
  | succ depth =>
      unfold walkFolder
      refine IsQuery.bind ⟨_, tells_list? hstorage _⟩ fun listing => ?_
      cases listing with
      | none => exact .pure []
      | some entries => exact isQuery_walkEntries hstorage root withFolders depth names entries

theorem isQuery_walkEntries (hstorage : storage.ByParts) (root : Path) (withFolders : Bool)
    (depth : Nat) (names : List (List Char)) (entries : List String) :
    IsQuery storage (walkEntries storage root withFolders depth names entries) := by
  cases entries with
  | nil =>
      unfold walkEntries
      exact .pure []
  | cons entry rest =>
      unfold walkEntries
      -- The rest of the folder is walked in the same way, whatever was found at its first entry.
      have hrest : ∀ found : List (List (List Char)), IsQuery storage (do
          return found ++ (← walkEntries storage root withFolders depth names rest)) := fun found =>
        (isQuery_walkEntries hstorage root withFolders depth names rest).bind fun _ => .pure _
      simp only
      split
      · refine (isQuery_walkFolder hstorage root withFolders depth _).bind fun inside => ?_
        exact IsQuery.bind (.pure _) hrest
      · exact IsQuery.bind (.pure _) hrest

end

theorem isQuery_walk (hstorage : storage.ByParts) (root : Path) (withFolders : Bool) :
    IsQuery storage (walk storage root withFolders) :=
  (isQuery_walkFolder hstorage root withFolders _ []).bind fun _ => .pure _

end Walking

end CsvSchema
