import Mathlib.Order.Monotone.Basic
import CsvSchema.Proofs.Slots.Parts
import CsvSchema.Proofs.Notes.Runs
import CsvSchema.Proofs.Views

/-!
# Renumbering of slots

The slots of a schema can have other numbers as long as they keep their order: a run has the same to
say about its records and at its end, `Schema.judgeRun_mapSlots`.  While records are judged, the
memories of both runs differ in the numbers of slots only, and at the end the references come out of
the slots in the same order.
-/

namespace CsvSchema

open Stateful

section Walking

-- Inside a mutual block the linter misses that a variable is used through another theorem.
set_option linter.unusedSectionVars false

variable {Q : ∀ {α : Type}, StateM Memory α → Prop} (hQ : Composes @Q)
  (hprobe : ∀ {α : Type} (question : StateM Probes α), Q (Memory.probe question))
  (storage : Storage) (root : Path) (withFolders : Bool)
include hQ hprobe

mutual

theorem composes_walkFolder (depth : Nat) (names : List (List Char)) :
    Q (walkFolder storage root withFolders depth names) := by
  cases depth with
  | zero =>
      unfold walkFolder
      exact hQ.pure []
  | succ depth =>
      unfold walkFolder
      refine hQ.bind (hprobe _) fun listing => ?_
      cases listing with
      | none => exact hQ.pure []
      | some entries => exact composes_walkEntries depth names entries

theorem composes_walkEntries (depth : Nat) (names : List (List Char)) (entries : List String) :
    Q (walkEntries storage root withFolders depth names entries) := by
  cases entries with
  | nil =>
      unfold walkEntries
      exact hQ.pure []
  | cons entry rest =>
      unfold walkEntries
      have hrest : ∀ found : List (List (List Char)), Q (do
          return found ++ (← walkEntries storage root withFolders depth names rest)) :=
        fun found => hQ.bind (composes_walkEntries depth names rest) fun _ => hQ.pure _
      simp only
      split
      · refine hQ.bind (composes_walkFolder depth _) fun inside => ?_
        exact hQ.bind (hQ.pure _) hrest
      · exact hQ.bind (hQ.pure _) hrest

end

/-- What is left to say about references depends on the answers about files only. -/
theorem composes_judgeReferences (references : References) : Q (references.judge storage) := by
  refine hQ.bind (hQ.mapM fun root _ => ?_) fun _ => hQ.pure _
  refine hQ.bind ?_ fun _ => hQ.pure _
  exact hQ.bind (composes_walkFolder hQ hprobe storage _ _ _ []) fun _ => hQ.pure _

end Walking

namespace Memory

/-- Two memories know the same about files, and what the first one remembers in a slot is in the
slot with the new number in the second one. -/
structure Renumbered (f : Nat → Nat) (memory₁ memory₂ : Memory) : Prop where
  probes : memory₁.probes = memory₂.probes
  slots : ∀ slot, memory₁.slots.get? slot = memory₂.slots.get? (f slot)
  reached : ∀ number, memory₂.slots.get? number ≠ none → ∃ slot, f slot = number

variable {f : Nat → Nat} {α : Type}

/-- Questions about files are answered in the same way as long as the answers that are remembered
are the same. -/
theorem coupled_probe {R : Memory → Memory → Prop}
    (hprobes : ∀ memory₁ memory₂, R memory₁ memory₂ → memory₁.probes = memory₂.probes)
    (hset : ∀ memory₁ memory₂ probes, R memory₁ memory₂ →
      R { memory₁ with probes } { memory₂ with probes })
    (question : StateM Probes α) : Coupled R (probe question) (probe question) := by
  intro memory₁ memory₂ h
  have hasked : question memory₁.probes = question memory₂.probes := by
    rw [hprobes memory₁ memory₂ h]
  unfold probe
  rw [hasked]
  exact ⟨rfl, hset memory₁ memory₂ _ h⟩

theorem renumbered_start (f : Nat → Nat) (memoize : Bool) :
    Renumbered f (start memoize) (start memoize) where
  probes := rfl
  slots _ := rfl
  reached _ h := absurd rfl h

theorem composes_renumbered : Composes fun action => Coupled (Renumbered f) action action :=
  ⟨.pure, .bind⟩

theorem coupled_probeRenumbered (question : StateM Probes α) :
    Coupled (Renumbered f) (probe question) (probe question) :=
  coupled_probe (fun _ _ h => h.probes) (fun _ _ _ h => ⟨rfl, h.slots, h.reached⟩) question

/-- A slot is used in the same way under its new number. -/
theorem coupled_useRenumbered (hf : Function.Injective f) (slot : Nat)
    (use : Option SlotMemory → α × SlotMemory) :
    Coupled (Renumbered f) (useSlot slot use) (useSlot (f slot) use) := by
  intro memory₁ memory₂ h
  have hcontent := h.slots slot
  refine ⟨?_, h.probes, fun x => ?_, fun number hnumber => ?_⟩
  · change (use _).1 = (use _).1
    rw [hcontent]
  · rw [get?_useSlot, get?_useSlot, hcontent]
    by_cases hx : x = slot
    · rw [if_pos hx, if_pos (congrArg f hx)]
    · rw [if_neg hx, if_neg (fun heq => hx (hf heq))]
      exact h.slots x
  · rw [get?_useSlot] at hnumber
    split at hnumber
    · rename_i heq
      exact ⟨slot, heq.symm⟩
    · exact h.reached number hnumber

theorem coupled_renumberedAtom (hf : Function.Injective f) (scope : Scope) (atom : Atom)
    (value : String) :
    Coupled (Renumbered f) (atom.evaluate scope value)
      ((atom.mapSlots f).evaluate scope value) := by
  have hlocate : ∀ text, Coupled (Renumbered f) (scope.locate? text) (scope.locate? text) :=
    composes_locate? composes_renumbered coupled_probeRenumbered
  have hbelow : ∀ root rule, Coupled (Renumbered f) (findBelow scope value root rule)
      (findBelow scope value root rule) :=
    composes_findBelow composes_renumbered coupled_probeRenumbered value
  cases atom with
  | unique columns slot =>
      simp only [Atom.mapSlots, Atom.evaluate, findUnique]
      split
      · exact .pure _
      · exact (coupled_useRenumbered hf slot _).bind fun _ => .pure _
  | identical slot =>
      simp only [Atom.mapSlots, Atom.evaluate, findIdentical]
      exact (coupled_useRenumbered hf slot _).bind fun _ => .pure _
  | integrity folder subfolder rule slot =>
      simp only [Atom.mapSlots, Atom.evaluate, findReference]
      split
      · exact .pure _
      · refine (hlocate _).bind fun found => ?_
        cases found with
        | none => exact .pure _
        | some root =>
            refine (coupled_useRenumbered hf slot _).bind fun _ => ?_
            refine (hbelow root rule).bind fun path => ?_
            cases path with
            | error detail => exact .pure _
            | ok path => exact (coupled_useRenumbered hf slot _).bind fun _ => .pure _
  | _ =>
      -- Other checks have no slots, and all that they ask is about files.
      exact composes_atom (p := fun _ => False) composes_renumbered coupled_probeRenumbered
        (fun _ _ h => h.elim) (fun _ _ h => h.elim) (fun _ _ _ _ h => h.elim) _
        (by simp [Atom.slots]) value

theorem coupled_renumberedCheck (hf : Function.Injective f) (scope : Scope) (check : Check)
    (value : String) :
    Coupled (Renumbered f) (check.evaluate scope value)
      ((check.mapSlots f).evaluate scope value) := by
  have hatom : ∀ (atom : Atom) (value : String), Coupled (Renumbered f)
      ((atom.mapSlots id).evaluate scope value) ((atom.mapSlots f).evaluate scope value) := by
    intro atom value
    rw [atom.mapSlots_id]
    exact coupled_renumberedAtom hf scope atom value
  have hcheck := coupled_evaluate (fun _ => rfl) hatom check value
  rwa [check.mapSlots_id] at hcheck

/-- The references are what is seen of them in the slots, in the order of the slots. -/
theorem takeReferences_eq (memory : Memory) : (takeReferences memory).1 =
    (memory.slots.viewed fun _ => referencesOf?).map (·.2) := by
  simp only [takeReferences, OrderedMap.viewed, List.map_filterMap, Option.map_map]
  congr 1
  funext entry
  exact Option.map_id'.symm

/-- The references come out of the slots in the same order. -/
theorem Renumbered.takeReferences {memory₁ memory₂ : Memory} (h : Renumbered f memory₁ memory₂)
    (hf : StrictMono f) :
    (takeReferences memory₁).1 = (takeReferences memory₂).1 ∧
      (takeReferences memory₁).2.probes = (takeReferences memory₂).2.probes := by
  refine ⟨?_, h.probes⟩
  rw [takeReferences_eq, takeReferences_eq]
  have hsame : ∀ {x y : Nat}, KeyOrder.before x y = true →
      KeyOrder.before (id x) (id y) = true := fun h => h
  have hordered : ∀ {x y : Nat}, KeyOrder.before x y = true →
      KeyOrder.before (f x) (f y) = true :=
    fun h => decide_eq_true (hf (of_decide_eq_true h))
  refine OrderedMap.map_viewed_eq_of_renumbered hsame hordered (fun x references => ?_)
    (fun entry _ => ⟨entry.1, rfl⟩) fun entry hentry => ?_
  · rw [OrderedMap.mem_viewed_iff, OrderedMap.mem_viewed_iff, id_eq, h.slots x]
  · obtain ⟨number, references⟩ := entry
    rw [OrderedMap.mem_viewed_iff] at hentry
    refine h.reached number fun hnone => ?_
    rw [hnone] at hentry
    cases hentry

end Memory

section Judging

variable {f : Nat → Nat} (hf : Function.Injective f) {environment : Environment} {row : Row}
include hf

theorem ColumnDefinition.coupled_judge (column : ColumnDefinition) :
    Coupled (Memory.Renumbered f) (column.judge environment row)
      ((column.mapSlots f).judge environment row) := by
  have hcheck : ∀ (value : String) (check : Check), Coupled (Memory.Renumbered f)
      (column.judgeCheck environment row value check)
      ((column.mapSlots f).judgeCheck environment row value (check.mapSlots f)) := by
    intro value check
    refine (Memory.coupled_renumberedCheck hf _ check value).bind fun verdict => ?_
    have hnotes : (column.mapSlots f).verdictNotes (check.mapSlots f) value verdict =
        column.verdictNotes check value verdict := by
      simp only [verdictNotes, Session.matchText, check.text_mapSlots]
      rfl
    rw [hnotes]
    exact .pure _
  have hrule : (column.mapSlots f).rule.checks = column.rule.checks.map (·.mapSlots f) :=
    mapCheckSlots_eq_map f column.rule.checks
  have hname : (column.mapSlots f).name = column.name := rfl
  have hsettings : (column.mapSlots f).rule.settings = column.rule.settings := rfl
  simp only [judge, hrule, hname, hsettings]
  cases row.get? (environment.settings.columnKey column.name) with
  | none => exact .pure _
  | some value =>
      simp only
      split
      · exact .pure _
      · exact (Coupled.mapM_map (hcheck value)).bind fun _ => .pure _

theorem coupled_judgeColumns (columns : List ColumnDefinition) :
    Coupled (Memory.Renumbered f) (judgeColumns environment row columns)
      (judgeColumns environment row (columns.map (·.mapSlots f))) :=
  (Coupled.mapM_map fun column => column.coupled_judge hf).bind fun _ => .pure _

end Judging

/-- At the end of a run only the answers about files matter, besides the references. -/
theorem coupled_judgeReferences (storage : Storage) (references : References) :
    Coupled (fun memory₁ memory₂ : Memory => memory₁.probes = memory₂.probes)
      (references.judge storage) (references.judge storage) := by
  have hquestion : ∀ {α : Type} (question : StateM Probes α),
      Coupled (fun memory₁ memory₂ : Memory => memory₁.probes = memory₂.probes)
        (Memory.probe question) (Memory.probe question) :=
    Memory.coupled_probe (fun _ _ h => h) fun _ _ _ _ => rfl
  have hcomposes : Composes fun action =>
      Coupled (fun memory₁ memory₂ : Memory => memory₁.probes = memory₂.probes) action action :=
    ⟨.pure, .bind⟩
  exact composes_judgeReferences hcomposes hquestion storage references

theorem judgeEnd_renumbered {f : Nat → Nat} (hf : StrictMono f) (storage : Storage)
    {memory₁ memory₂ : Memory} (h : memory₁.Renumbered f memory₂) :
    (judgeEnd storage memory₁).1 = (judgeEnd storage memory₂).1 := by
  obtain ⟨htaken, hprobes⟩ := h.takeReferences hf
  have hjudged : Coupled _ ((Memory.takeReferences memory₁).1.mapM (References.judge storage)) _ :=
    Coupled.mapM (coupled_judgeReferences storage)
  have hnotes := (hjudged _ _ hprobes).1
  simp only [judgeEnd, bind_apply, pure_apply]
  rw [← htaken, hnotes]

namespace Schema

variable (schema : Schema) (f : Nat → Nat)

theorem columnKeys_mapSlots : (schema.mapSlots f).columnKeys = schema.columnKeys := by
  rw [columnKeys, columnKeys, mapSlots, List.map_map]
  rfl

/-- The numbers of slots do not matter for what a run has to say, only their order does. -/
theorem judgeRun_mapSlots (hf : StrictMono f) (options : Options) (storage : Storage)
    (records : List (List String)) :
    (schema.mapSlots f).judgeRun options storage records =
      schema.judgeRun options storage records := by
  have hrecord : ∀ record, Coupled (Memory.Renumbered f)
      (schema.judgeRecord ⟨schema.settings, options, storage⟩ record)
      ((schema.mapSlots f).judgeRecord ⟨schema.settings, options, storage⟩ record) := by
    intro record
    rw [judgeRecord, judgeRecord, columnKeys_mapSlots]
    exact coupled_judgeColumns hf.injective schema.columns
  have hrecords : Coupled (Memory.Renumbered f) (records.mapM _) (records.mapM _) :=
    Coupled.mapM hrecord
  obtain ⟨hnotes, hmemory⟩ := hrecords _ _ (Memory.renumbered_start f options.memoize)
  have hend := judgeEnd_renumbered hf storage hmemory
  exact Prod.ext hnotes.symm hend.symm

end Schema

section Compact

/-- The numbering that gives the numbers in a list to the first slots, and larger ones to the
others. -/
def numbering (numbers : List Nat) (slot : Nat) : Nat :=
  if h : slot < numbers.length then numbers[slot] else numbers.getLast?.getD 0 + 1 + slot

/-- No number in an increasing list is larger than the last one. -/
theorem getElem_le_getLast {numbers : List Nat} (h : numbers.Pairwise (· < ·)) {i : Nat}
    (hi : i < numbers.length) : numbers[i] ≤ numbers.getLast?.getD 0 := by
  have hend : numbers.length - 1 < numbers.length := by omega
  rw [List.getLast?_eq_getElem?, List.getElem?_eq_getElem hend, Option.getD_some]
  rcases Nat.lt_or_ge i (numbers.length - 1) with hbefore | hafter
  · exact Nat.le_of_lt (List.pairwise_iff_getElem.1 h i _ hi hend hbefore)
  · have heq : i = numbers.length - 1 := by omega
    simp only [heq, Nat.le_refl]

theorem strictMono_numbering {numbers : List Nat} (h : numbers.Pairwise (· < ·)) :
    StrictMono (numbering numbers) := by
  intro x y hxy
  unfold numbering
  by_cases hy : y < numbers.length
  · have hx : x < numbers.length := by omega
    rw [dif_pos hx, dif_pos hy]
    exact List.pairwise_iff_getElem.1 h x y hx hy hxy
  · rw [dif_neg hy]
    by_cases hx : x < numbers.length
    · have hlast : numbers[x] ≤ numbers.getLast?.getD 0 := getElem_le_getLast h hx
      rw [dif_pos hx]
      omega
    · rw [dif_neg hx]
      omega

theorem numbering_idxOf {numbers : List Nat} {number : Nat} (h : number ∈ numbers) :
    numbering numbers (numbers.idxOf number) = number := by
  have hlt := List.idxOf_lt_length_of_mem h
  rw [numbering, dif_pos hlt, List.getElem_idxOf]

theorem map_idxOf_self {numbers : List Nat} (h : numbers.Nodup) :
    numbers.map numbers.idxOf = List.range numbers.length := by
  refine List.ext_getElem (by simp) fun i hi _ => ?_
  rw [List.getElem_map, List.getElem_range, h.idxOf_getElem]

variable {schema : Schema}

/-- A schema with its slots numbered from zero on, without gaps. -/
def Schema.compact (schema : Schema) : Schema :=
  schema.mapSlots (columnSlots schema.columns).idxOf

theorem columnSlots_map_mapSlots (f : Nat → Nat) (columns : List ColumnDefinition) :
    columnSlots (columns.map (·.mapSlots f)) = (columnSlots columns).map f := by
  rw [columnSlots, columnSlots, List.flatMap_map, List.map_flatMap]
  congr 1
  funext column
  exact checkSlots_mapCheckSlots f column.rule.checks

theorem columnSlots_compact (h : (columnSlots schema.columns).Pairwise (· < ·)) :
    columnSlots schema.compact.columns = List.range (columnSlots schema.columns).length := by
  have hnodup : (columnSlots schema.columns).Nodup := h.imp Nat.ne_of_lt
  exact (columnSlots_map_mapSlots _ schema.columns).trans (map_idxOf_self hnodup)

/-- The gaps between the slots of a schema do not matter. -/
theorem Schema.judgeRun_compact (h : (columnSlots schema.columns).Pairwise (· < ·))
    (options : Options) (storage : Storage) (records : List (List String)) :
    schema.compact.judgeRun options storage records =
      schema.judgeRun options storage records := by
  have hcolumns : (schema.compact.mapSlots (numbering (columnSlots schema.columns))).columns =
      schema.columns := by
    have hcongr := map_mapSlots_congr (g := id) schema.columns fun _ hslot => numbering_idxOf hslot
    exact (map_mapSlots_map_mapSlots _ _ schema.columns).trans
      (hcongr.trans (map_mapSlots_id schema.columns))
  have hrun := judgeRun_mapSlots schema.compact _ (strictMono_numbering h) options storage records
  rw [← hrun]
  -- A run does not look at the number of slots, which is all that the schemas may differ in.
  refine (judgeRun_congr ?_ ?_ (fun environment row => ?_) options storage records).symm
  · rfl
  · rw [columnKeys, columnKeys, hcolumns]
    rfl
  · rw [hcolumns]

end Compact

end CsvSchema
