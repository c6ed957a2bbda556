import Mathlib.Data.List.Forall2
import CsvSchema.Proofs.Verdict
import CsvSchema.Proofs.Queries
import CsvSchema.Proofs.Storage.Folders

/-!
# Paths found without regard to case

A path that nothing has is followed part by part: a name leads to the entry with this name, or else
to the first entry of its folder whose name is the same in lower case, and every other part is taken
as it is.  So what is found has the parts of the path up to letter case.  It is there as well if the
last part was looked up, `MemoryStorage.located_path_exists`; but nothing is asked about a part that
is taken as it is, nor about a path without parts, and a name with nothing before it is looked up in
the working folder `.` and then named without it.
-/

namespace CsvSchema

open List (Forall₂)

/-- Parts of paths that are the same up to the letter case of a name. -/
inductive PathPart.Alike : PathPart → PathPart → Prop
  | refl (part : PathPart) : Alike part part
  | name {text other : List Char} (h : Text.lower text = Text.lower other) :
      Alike (.name text) (.name other)

namespace Path

/-- Paths with the same parts up to the letter case of names. -/
def Alike (p q : Path) : Prop := Forall₂ PathPart.Alike p.parts q.parts

theorem Alike.refl (p : Path) : p.Alike p := List.forall₂_same.2 fun part _ => .refl part

end Path

namespace MemoryStorage

/-- The last of some parts is a name that is looked up among the entries of the folder before it.
Where nothing is before it and there is a working folder, an entry of the working folder will do,
and that entry is not at the place which its name alone says. -/
def LooksUpLast (storage : MemoryStorage) (parts : List PathPart) : Prop :=
  ∃ front name, parts = front ++ [.name name] ∧
    (front = [] → storage.isFolder ⟨['.']⟩ = false)

/-- Everything that a path says is looked up somewhere. -/
def IsLookedUp (storage : MemoryStorage) (p : Path) : Prop :=
  storage.has p = true ∨ storage.LooksUpLast p.parts

/-- What is at the end of a walk along some parts. -/
structure LeadsTo (storage : MemoryStorage) (parts : List PathPart) (found : Path) : Prop where
  starts : parts = [] → found = ⟨[]⟩
  alike : Forall₂ PathPart.Alike parts found.parts
  isThere : storage.LooksUpLast parts → storage.has found = true

variable {storage : MemoryStorage}

theorem leadsTo_nil : storage.LeadsTo [] ⟨[]⟩ where
  starts _ := rfl
  alike := .nil
  isThere := by
    rintro ⟨front, name, hlast, -⟩
    simp at hlast

/-- One part more, which has a part of the path found that is alike. -/
theorem LeadsTo.concat {front : List PathPart} {found next : Path} {part other : PathPart}
    (h : storage.LeadsTo front found) (halike : part.Alike other)
    (hparts : next.parts = found.parts ++ [other])
    (hthere : (∃ name, part = .name name) → (front = [] → storage.isFolder ⟨['.']⟩ = false) →
      storage.has next = true) :
    storage.LeadsTo (front ++ [part]) next where
  starts hempty := by simp at hempty
  alike := by
    rw [hparts]
    exact List.rel_append h.alike (.cons halike .nil)
  isThere := by
    rintro ⟨before, name, hlast, hfolder⟩
    obtain ⟨rfl, hname⟩ := List.append_inj' hlast rfl
    exact hthere ⟨name, List.head_eq_of_cons_eq hname⟩ hfolder

/-- A name leads to an entry of the same name in lower case, which is there unless it was found in
the working folder. -/
theorem exists_of_stepCaseless?_name (hplain : storage.Plain) {found next : Path}
    {name : List Char} (hname : IsName name)
    (h : storage.toStorage.stepCaseless? found (.name name) = some next) :
    ∃ entry, Text.lower name = Text.lower entry ∧ next.parts = found.parts ++ [.name entry] ∧
      ((found.chars = [] → storage.isFolder ⟨['.']⟩ = false) → storage.has next = true) := by
  simp only [Storage.stepCaseless?] at h
  split at h
  · rename_i hexact
    cases h
    exact ⟨name, rfl, Path.parts_join_name found hname, fun _ => hexact⟩
  · obtain ⟨entries, hlist, hfound⟩ := Option.bind_eq_some_iff.1 h
    obtain ⟨entry, hentry, rfl⟩ := Option.map_eq_some_iff.1 hfound
    generalize hfolder : (if found.chars = [] then (⟨['.']⟩ : Path) else found) = folder at hlist
    -- What is listed is there, so its name is a name in a path.
    have hlisted : storage.isFolder folder = true ∧ storage.namesIn folder.parts = entries := by
      simp only [toStorage, list] at hlist
      split at hlist
      · rename_i hisFolder
        exact ⟨hisFolder, Option.some.inj hlist⟩
      · cases hlist
    have hmem := List.mem_of_find?_eq_some hentry
    rw [← hlisted.2, mem_namesIn_iff] at hmem
    obtain ⟨kind, hkind⟩ := Option.isSome_iff_exists.1 hmem
    have hparts := Path.parts_join_name found (hplain.names _ kind hkind entry.toList (by simp))
    have hlower := List.find?_some hentry
    refine ⟨entry.toList, (beq_iff_eq.1 hlower).symm, hparts, fun hworking => ?_⟩
    by_cases hempty : found.chars = []
    · rw [if_pos hempty] at hfolder
      rw [← hfolder, hworking hempty] at hlisted
      cases hlisted.1
    · rw [if_neg hempty] at hfolder
      rw [← hfolder] at hmem
      rw [has, Path.ofString, hparts]
      exact hmem

/-- One step of a walk along the parts of a path. -/
theorem LeadsTo.step (hplain : storage.Plain) {p : Path} {front rest : List PathPart}
    {part : PathPart} {found next : Path} (hp : p.parts = front ++ part :: rest)
    (h : storage.LeadsTo front found)
    (hnext : storage.toStorage.stepCaseless? found part = some next) :
    storage.LeadsTo (front ++ [part]) next := by
  have hfirst : part ≠ .up → (∀ text, part ≠ .name text) → found = ⟨[]⟩ := by
    intro hup hname
    rcases Path.eq_nil_or_inner hp with hempty | heq | ⟨text, heq⟩
    · exact h.starts hempty
    · exact absurd heq hup
    · exact absurd heq (hname text)
  cases part with
  | root =>
      obtain rfl := hfirst (by simp) (by simp)
      cases hnext
      exact h.concat (.refl _) rfl (by simp)
  | here =>
      obtain rfl := hfirst (by simp) (by simp)
      cases hnext
      exact h.concat (.refl _) rfl (by simp)
  | up =>
      cases hnext
      exact h.concat (.refl _) (Path.parts_join_up found) (by simp)
  | name text =>
      have hname : IsName text := Path.isName_of_mem_parts (p := p) (by simp [hp])
      obtain ⟨entry, hlower, hparts, hthere⟩ := exists_of_stepCaseless?_name hplain hname hnext
      refine h.concat (.name hlower) hparts fun _ hworking => hthere fun hempty => hworking ?_
      -- Without text there are no parts, hence nothing was walked along.
      obtain rfl : found = ⟨[]⟩ := congrArg Path.mk hempty
      exact List.forall₂_nil_right_iff.1 h.alike

/-- A walk along all parts of a path. -/
theorem LeadsTo.foldlM (hplain : storage.Plain) {p : Path} {front rest : List PathPart}
    {found q : Path} (hp : p.parts = front ++ rest) (h : storage.LeadsTo front found)
    (hq : rest.foldlM storage.toStorage.stepCaseless? found = some q) :
    storage.LeadsTo p.parts q := by
  induction rest generalizing front found with
  | nil =>
      cases hq
      rw [hp, List.append_nil]
      exact h
  | cons part rest ih =>
      rw [List.foldlM_cons] at hq
      obtain ⟨next, hnext, hrest⟩ := Option.bind_eq_some_iff.1 hq
      exact ih (by rw [hp, List.append_assoc]; rfl) (h.step hplain hp hnext) hrest

/-- What is found for a path without regard to case. -/
theorem Plain.resolveCaseless? (hplain : storage.Plain) {p q : Path}
    (h : storage.toStorage.resolveCaseless? p = some q) :
    p.Alike q ∧ (storage.IsLookedUp p → storage.has q = true) := by
  unfold Storage.resolveCaseless? at h
  split at h
  · rename_i hexact
    cases h
    exact ⟨.refl p, fun _ => hexact⟩
  · rename_i habsent
    have hwalk := leadsTo_nil.foldlM hplain rfl h
    refine ⟨hwalk.alike, ?_⟩
    rintro (hexact | hlast)
    · exact absurd hexact habsent
    · exact hwalk.isThere hlast

end MemoryStorage

/-- A check that a file exists holds if and only if the text of the file leads somewhere. -/
theorem Session.validate_fileExists_iff {storage : MemoryStorage} {environment : Environment}
    (hstorage : environment.storage = storage.toStorage) (row : Row) (fold : Bool)
    (level : Option Severity) (folder : Option Operand) (value : String) {session : Session}
    (htruthful : session.memory.probes.Truthful storage.toStorage) :
    (validate environment row fold level (.atom (.fileExists folder)) value session).1 = true ↔
      ∃ text, (session.scope environment row fold).operandOr "" folder = .ok text ∧
        ((session.scope environment row fold).located? (FileText.joined text value)).isSome =
          true := by
  rw [validate_atom_iff, Atom.evaluate, findFile]
  cases (session.scope environment row fold).operandOr "" folder with
  | error e => simp
  | ok text =>
      have hscope : (session.scope environment row fold).environment.storage =
          storage.toStorage := hstorage
      have hlocated := (tells_locate? storage.byParts hscope (FileText.joined text value)
        session.memory htruthful).1
      simp only [Stateful.bind_apply, Stateful.pure_apply, hlocated, Except.ok.injEq,
        exists_eq_left']
      generalize Scope.located? _ _ = located
      cases located <;> simp [Finding.ofBool]

namespace MemoryStorage

/-- What is found for a path is there, with the parts of the path up to letter case, if everything
in the path is looked up; so a check that a file exists holds only for a path that names something,
or whose spelling in another letter case does. -/
theorem located_path_exists {storage : MemoryStorage} (hbuilt : storage.Built) :
    (∀ p q, storage.toStorage.resolveCaseless? p = some q →
      p.Alike q ∧ (storage.IsLookedUp p → storage.has q = true)) ∧
    ∀ (environment : Environment) (row : Row) (fold : Bool) (level : Option Severity)
      (folder : Option Operand) (value : String) (session : Session),
      environment.storage = storage.toStorage →
      session.memory.probes.Truthful storage.toStorage →
      (Session.validate environment row fold level (.atom (.fileExists folder)) value
        session).1 = true →
      ∃ text, (session.scope environment row fold).operandOr "" folder = .ok text ∧
        let path := environment.options.resolve (FileText.path (FileText.joined text value))
        if fold then storage.IsLookedUp path → ∃ q, path.Alike q ∧ storage.has q = true
        else storage.has path = true := by
  refine ⟨fun p q h => hbuilt.plain.resolveCaseless? h, ?_⟩
  intro environment row fold level folder value session hstorage htruthful hheld
  obtain ⟨text, htext, hlocated⟩ :=
    (Session.validate_fileExists_iff hstorage row fold level folder value htruthful).1 hheld
  refine ⟨text, htext, ?_⟩
  simp only [Scope.located?, Session.scope, hstorage] at hlocated
  generalize environment.options.resolve (FileText.path (FileText.joined text value)) = path
    at hlocated ⊢
  cases fold with
  | true =>
      obtain ⟨q, hq⟩ := Option.isSome_iff_exists.1 hlocated
      obtain ⟨halike, hthere⟩ := hbuilt.plain.resolveCaseless? hq
      exact fun hlookedUp => ⟨q, halike, hthere hlookedUp⟩
  | false =>
      simp only [Bool.false_eq_true, if_false] at hlocated ⊢
      split at hlocated
      · rename_i hthere
        exact hthere
      · cases hlocated

/-- Below the folder `/base`, the value `a.TXT` in the folder `content` is found as the file
`Content/A.txt`, whose path has the parts of the path that was looked up, up to letter case. -/
theorem located_path_exists_of_other_case :
    let storage := empty.addFile (.ofString "/base/Content/A.txt") []
    let environment : Environment :=
      ⟨.initial, ⟨true, true, some (.ofString "/base")⟩, storage.toStorage⟩
    let path := Path.ofString "/base/content/a.TXT"
    let found := Path.ofString "/base/Content/A.txt"
    (storage.Built ∧ storage.IsLookedUp path ∧
      storage.toStorage.resolveCaseless? path = some found ∧
      Probes.Truthful storage.toStorage (Session.start true).memory.probes ∧
      (Session.validate environment ⟨[]⟩ true none (.atom (.fileExists (some (.literal "content"))))
        "a.TXT" (.start true)).1 = true) ∧
    (path.Alike found ∧ storage.has found = true) ∧ ∃ q, path.Alike q ∧ storage.has q = true := by
  intro storage environment path found
  have hbuilt : storage.Built := Built.empty.file _ _
  have hlookedUp : storage.IsLookedUp path :=
    .inr ⟨[.root, .name "base".toList, .name "content".toList], "a.TXT".toList,
      by decide +kernel, by simp⟩
  have hfound : storage.toStorage.resolveCaseless? path = some found := by decide +kernel
  have htruthful := Probes.truthful_start storage.toStorage true
  have hheld : (Session.validate environment ⟨[]⟩ true none
      (.atom (.fileExists (some (.literal "content")))) "a.TXT" (.start true)).1 = true := by
    decide +kernel
  obtain ⟨hpaths, hchecks⟩ := located_path_exists hbuilt
  obtain ⟨halike, hthere⟩ := hpaths path found hfound
  obtain ⟨text, htext, hlocated⟩ := hchecks environment ⟨[]⟩ true none _ _ _ rfl htruthful hheld
  obtain rfl : text = "content" := (Except.ok.inj htext).symm
  have hpath : environment.options.resolve
      (FileText.path (FileText.joined "content" "a.TXT")) = path := by decide +kernel
  rw [hpath] at hlocated
  exact ⟨⟨hbuilt, hlookedUp, hfound, htruthful, hheld⟩, ⟨halike, hthere hlookedUp⟩,
    hlocated hlookedUp⟩

/-- Nothing is asked about a path without parts, so it is found where nothing is, and the check that
the file exists holds for an empty value.  A name alone is looked up in the working folder and then
taken without it, which leads nowhere. -/
theorem not_located_path_exists :
    let storage := empty.addFile (.ofString "./Q/x") []
    let environment : Environment := ⟨.initial, .initial, storage.toStorage⟩
    (storage.toStorage.resolveCaseless? ⟨[]⟩ = some ⟨[]⟩ ∧ storage.has ⟨[]⟩ = false ∧
      (Session.validate environment ⟨[]⟩ true none (.atom (.fileExists none)) ""
        (.start true)).1 = true) ∧
    storage.toStorage.resolveCaseless? (.ofString "q") = some (.ofString "Q") ∧
      storage.has (.ofString "Q") = false := by
  decide +kernel

end MemoryStorage

end CsvSchema
