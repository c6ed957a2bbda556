import Mathlib.Order.Monotone.Basic
import CsvSchema.Run.Completeness
import CsvSchema.Proofs.Independence.Sessions

/-!
# Ends of two runs

At the end of two runs of schemas that differ in the rule of one column, the references of the
other columns are the same and come in the same order, whatever the numbers of their slots are.
So they are reported in the same way; the references of the edited column are reported in that
column only.
-/

namespace CsvSchema

open Stateful

theorem strictMono_gap (start width : Nat) : StrictMono (gap start width) := by
  intro x y h
  unfold gap
  split <;> split <;> omega

namespace Memory

/-- References that do not belong to a column. -/
def foreign? (name : String) (content : SlotMemory) : Option References :=
  (referencesOf? content).filter (·.column != name)

theorem filter_takeReferences (name : String) (memory : Memory) :
    (takeReferences memory).1.filter (·.column != name) =
      (memory.slots.viewed fun _ => foreign? name).map (·.2) := by
  simp only [takeReferences, OrderedMap.viewed, List.filter_filterMap, List.map_filterMap,
    Option.map_map]
  congr 1
  funext entry
  simp only [foreign?]
  cases (referencesOf? entry.2).filter (·.column != name) <;> rfl

/-- A slot with references of another column is one that the renaming reaches. -/
theorem Sound.exists_of_mem_viewed {storage : Storage} {name : String} {f : Nat → Nat}
    {memory : Memory} (h : Sound storage name f memory) {entry : Nat × References}
    (hentry : entry ∈ memory.slots.viewed fun _ => foreign? name) : ∃ x, f x = entry.1 := by
  obtain ⟨slot, references⟩ := entry
  rw [OrderedMap.mem_viewed_iff] at hentry
  obtain ⟨content, hcontent, hforeign⟩ := Option.bind_eq_some_iff.1 hentry
  by_contra hnone
  have hbelongs := h.hidden slot fun x hx => hnone ⟨x, hx⟩
  rw [hcontent] at hbelongs
  -- A hidden slot holds references of the edited column only, and these are not foreign.
  obtain ⟨hreferences, hcolumn⟩ := Option.filter_eq_some_iff.1 hforeign
  cases content with
  | references found =>
      cases hreferences
      simp [hbelongs references rfl] at hcolumn
  | _ => cases hreferences

/-- Memories in step hold the same references of other columns in the same order. -/
theorem Agree.takeReferences {storage : Storage} {name : String} {f₁ f₂ : Nat → Nat}
    {memory₁ memory₂ : Memory} (h : Agree storage name f₁ f₂ memory₁ memory₂) (h₁ : StrictMono f₁)
    (h₂ : StrictMono f₂) :
    (takeReferences memory₁).1.filter (·.column != name) =
      (takeReferences memory₂).1.filter (·.column != name) := by
  rw [filter_takeReferences, filter_takeReferences]
  refine OrderedMap.map_viewed_eq_of_renumbered (fun hxy => ?_) (fun hxy => ?_)
    (fun x references => ?_) (fun entry => h.left.exists_of_mem_viewed)
    fun entry => h.right.exists_of_mem_viewed
  · exact decide_eq_true (h₁ (of_decide_eq_true hxy))
  · exact decide_eq_true (h₂ (of_decide_eq_true hxy))
  · rw [OrderedMap.mem_viewed_iff, OrderedMap.mem_viewed_iff, h.slots x]

end Memory

namespace Session

/-- Two sessions at the end of two runs, where all that is left is to report references. -/
def AtEnd (storage : Storage) (name : String) : Session → Session → Prop :=
  Agree (fun memory₁ memory₂ => memory₁.probes.Truthful storage ∧ memory₂.probes.Truthful storage)
    name

variable {storage : Storage} {name : String}

theorem AtEnd.symm {session₁ session₂ : Session} (h : AtEnd storage name session₁ session₂) :
    AtEnd storage name session₂ session₁ :=
  Agree.symm h And.symm

theorem AtEnd.trans {session₁ session₂ session₃ : Session}
    (h : AtEnd storage name session₁ session₂) (h' : AtEnd storage name session₂ session₃) :
    AtEnd storage name session₁ session₃ :=
  ⟨h.line.trans h'.line, h.report.trans h'.report, h.memory.1, h'.memory.2⟩

theorem AtEnd.pushAll {session₁ session₂ : Session} (h : AtEnd storage name session₁ session₂)
    (hcolumn : session₁.column = session₂.column) (severity : Severity) (messages : List String) :
    AtEnd storage name (session₁.pushAll severity messages) (session₂.pushAll severity messages) ∧
      (session₁.pushAll severity messages).column =
        (session₂.pushAll severity messages).column := by
  induction messages generalizing session₁ session₂ with
  | nil => exact ⟨h, hcolumn⟩
  | cons message rest ih => exact ih (Agree.push h hcolumn severity message) hcolumn

/-- Messages about the edited column are in one report only. -/
theorem AtEnd.pushAll_left {session₁ session₂ : Session}
    (h : AtEnd storage name session₁ session₂) (hcolumn : session₁.column = name)
    (severity : Severity) (messages : List String) :
    AtEnd storage name (session₁.pushAll severity messages) session₂ ∧
      (session₁.pushAll severity messages).column = name := by
  induction messages generalizing session₁ with
  | nil => exact ⟨h, hcolumn⟩
  | cons message rest ih => exact ih (Agree.push_left h hcolumn severity message) hcolumn

variable (hstorage : storage.ByParts)
include hstorage

/-- The missing entries of a folder are the same in both runs. -/
theorem coupled_reportFolder (references : References) (root : Path)
    (named : List (List PathPart)) :
    Coupled (fun session₁ session₂ => AtEnd storage name session₁ session₂ ∧
        session₁.column = session₂.column)
      (reportFolder storage references root named)
      (reportFolder storage references root named) := by
  rintro session₁ session₂ ⟨h, hcolumn⟩
  obtain ⟨entries, hentries⟩ := isQuery_walk hstorage root (references.rule == .includeFolder)
  obtain ⟨hwalk₁, -, htruthful₁⟩ := hentries session₁.memory h.memory.1
  obtain ⟨hwalk₂, -, htruthful₂⟩ := hentries session₂.memory h.memory.2
  simp only [reportFolder]
  generalize walk storage root _ session₁.memory = walked₁ at hwalk₁ htruthful₁ ⊢
  generalize walk storage root _ session₂.memory = walked₂ at hwalk₂ htruthful₂ ⊢
  obtain ⟨_, memory₁⟩ := walked₁
  obtain ⟨_, memory₂⟩ := walked₂
  cases hwalk₁
  cases hwalk₂
  have hwalked : AtEnd storage name { session₁ with memory := memory₁ }
      { session₂ with memory := memory₂ } := { h with memory := ⟨htruthful₁, htruthful₂⟩ }
  exact ⟨rfl, hwalked.pushAll hcolumn references.severity _⟩

theorem keeps_reportFolder (references : References) (root : Path) (named : List (List PathPart))
    (session₂ : Session) :
    Keeps (fun session₁ => AtEnd storage name session₁ session₂ ∧ session₁.column = name)
      (reportFolder storage references root named) := by
  rintro session₁ ⟨h, hcolumn⟩
  obtain ⟨entries, hentries⟩ := isQuery_walk hstorage root (references.rule == .includeFolder)
  obtain ⟨-, -, htruthful⟩ := hentries session₁.memory h.memory.1
  have hwalked : AtEnd storage name
      { session₁ with memory := (walk storage root (references.rule == .includeFolder)
        session₁.memory).2 } session₂ :=
    { h with memory := ⟨htruthful, h.memory.2⟩ }
  exact hwalked.pushAll_left hcolumn references.severity _

/-- References are reported in the same way in both runs. -/
theorem coupled_reportReferences (references : References) :
    Coupled (AtEnd storage name) (reportReferences storage references)
      (reportReferences storage references) := by
  intro session₁ session₂ h
  have hentered : AtEnd storage name { session₁ with column := references.column }
      { session₂ with column := references.column } := { h with }
  obtain ⟨houtcomes, hends⟩ := Coupled.mapM
    (fun (root : _ × Path × List (List PathPart)) =>
      coupled_reportFolder hstorage references root.2.1 root.2.2) _ _
    (⟨hentered, rfl⟩ : _ ∧ references.column = references.column)
  exact ⟨congrArg (·.all id) houtcomes, hends.1⟩

/-- References of the edited column are reported in that column only. -/
theorem keeps_reportReferences {references : References} (hcolumn : references.column = name)
    (session₂ : Session) :
    Keeps (fun session₁ => AtEnd storage name session₁ session₂)
      (reportReferences storage references) := by
  intro session₁ h
  have hentered : AtEnd storage name { session₁ with column := references.column } session₂ :=
    { h with }
  exact (Keeps.mapM
    (fun (root : _ × Path × List (List PathPart)) _ =>
      keeps_reportFolder hstorage references root.2.1 root.2.2 session₂) _
    ⟨hentered, hcolumn⟩).1

/-- The references of the edited column can be left out. -/
theorem AtEnd.mapM_filter (taken : List References) {session₁ session₂ : Session}
    (h : AtEnd storage name session₁ session₂) :
    AtEnd storage name (taken.mapM (reportReferences storage) session₁).2
      ((taken.filter (·.column != name)).mapM (reportReferences storage) session₂).2 := by
  induction taken generalizing session₁ session₂ with
  | nil => exact h
  | cons references rest ih =>
      rw [Stateful.mapM_cons_apply]
      by_cases hcolumn : references.column = name
      · rw [List.filter_cons_of_neg (by simp [hcolumn])]
        exact ih (keeps_reportReferences hstorage hcolumn session₂ session₁ h)
      · rw [List.filter_cons_of_pos (by simp [hcolumn]), Stateful.mapM_cons_apply]
        exact ih (coupled_reportReferences hstorage references session₁ session₂ h).2

/-- Runs that are in step until their ends report the same, except for the edited column. -/
theorem InStep.finish {f₁ f₂ : Nat → Nat} (h₁ : StrictMono f₁) (h₂ : StrictMono f₂)
    {session₁ session₂ : Session} (h : InStep storage name f₁ f₂ session₁ session₂) :
    (finish storage session₁).2.report.AgreeExcept name (finish storage session₂).2.report := by
  have htaken := h.memory.takeReferences h₁ h₂
  have hends : AtEnd storage name (remembering Memory.takeReferences session₁).2
      (remembering Memory.takeReferences session₂).2 :=
    { h with memory := ⟨h.memory.left.truthful, h.memory.right.truthful⟩ }
  -- Both runs are compared with one that reports nothing about the edited column.
  have hself : AtEnd storage name (remembering Memory.takeReferences session₂).2
      (remembering Memory.takeReferences session₂).2 := hends.symm.trans hends
  have hleft := hends.mapM_filter hstorage (Memory.takeReferences session₁.memory).1
  have hright := hself.mapM_filter hstorage (Memory.takeReferences session₂.memory).1
  rw [htaken] at hleft
  exact (hleft.trans hright.symm).report

end Session

end CsvSchema
