import CsvSchema.Proofs.Queries
import CsvSchema.Proofs.Evaluation

/-!
# Memories of two runs

Two runs of schemas that differ in the rule of one column keep their memories in step: what a slot
of any other column remembers is the same under its two numbers, and both runs get the same
answers about files.  The slots of the edited column, which no renaming reaches, may hold
anything, as long as the references in them belong to that column.
-/

namespace CsvSchema

open Stateful

/-- References in what a slot holds belong to a column. -/
def BelongsTo (name : String) (content : Option SlotMemory) : Prop :=
  ∀ references, content = some (.references references) → references.column = name

namespace Memory

variable (storage : Storage) (name : String)

/-- A memory knows the truth about files, and the slots that a renaming does not reach belong to the
column `name`. -/
structure Sound (f : Nat → Nat) (memory : Memory) : Prop where
  truthful : memory.probes.Truthful storage
  hidden : ∀ slot, (∀ x, f x ≠ slot) → BelongsTo name (memory.slots.get? slot)

/-- Two memories are the same up to the numbers of slots, except for what belongs to the column
`name`. -/
structure Agree (f₁ f₂ : Nat → Nat) (memory₁ memory₂ : Memory) : Prop where
  left : Sound storage name f₁ memory₁
  right : Sound storage name f₂ memory₂
  slots : ∀ x, memory₁.slots.get? (f₁ x) = memory₂.slots.get? (f₂ x)

theorem sound_start (f : Nat → Nat) (memoize : Bool) : Sound storage name f (start memoize) where
  truthful := Probes.truthful_start storage memoize
  hidden _ _ references h := by cases h

theorem agree_start (f₁ f₂ : Nat → Nat) (memoize : Bool) :
    Agree storage name f₁ f₂ (start memoize) (start memoize) where
  left := sound_start storage name f₁ memoize
  right := sound_start storage name f₂ memoize
  slots _ := rfl

variable {storage name} {f f₁ f₂ : Nat → Nat} {α : Type}

theorem Agree.symm {memory₁ memory₂ : Memory} (h : Agree storage name f₁ f₂ memory₁ memory₂) :
    Agree storage name f₂ f₁ memory₂ memory₁ :=
  ⟨h.right, h.left, fun x => (h.slots x).symm⟩

/-- A question about files changes no slot. -/
theorem Sound.tells {action : StateM Memory α} {answer : α} (h : Tells storage action answer)
    {memory : Memory} (hmemory : Sound storage name f memory) :
    Sound storage name f (action memory).2 := by
  obtain ⟨-, hslots, htruthful⟩ := h memory hmemory.truthful
  exact ⟨htruthful, by rw [hslots]; exact hmemory.hidden⟩

theorem coupled_of_isQuery {action : StateM Memory α} (h : IsQuery storage action) :
    Coupled (Agree storage name f₁ f₂) action action := by
  obtain ⟨answer, htells⟩ := h
  intro memory₁ memory₂ hagree
  obtain ⟨hanswer₁, hslots₁, -⟩ := htells memory₁ hagree.left.truthful
  obtain ⟨hanswer₂, hslots₂, -⟩ := htells memory₂ hagree.right.truthful
  refine ⟨hanswer₁.trans hanswer₂.symm, hagree.left.tells htells, hagree.right.tells htells, ?_⟩
  rw [hslots₁, hslots₂]
  exact hagree.slots

theorem keeps_of_isQuery {action : StateM Memory α} (h : IsQuery storage action)
    (memory₂ : Memory) :
    Keeps (fun memory₁ => Agree storage name f₁ f₂ memory₁ memory₂) action := by
  obtain ⟨answer, htells⟩ := h
  intro memory₁ hagree
  obtain ⟨-, hslots, -⟩ := htells memory₁ hagree.left.truthful
  refine ⟨hagree.left.tells htells, hagree.right, ?_⟩
  rw [hslots]
  exact hagree.slots

/-- Using a slot that a renaming reaches. -/
theorem Sound.useSlot_reached {slot : Nat} (use : Option SlotMemory → α × SlotMemory)
    {memory : Memory} (h : Sound storage name f memory) :
    Sound storage name f (useSlot (f slot) use memory).2 where
  truthful := h.truthful
  hidden x hx := by
    rw [get?_useSlot, if_neg (fun heq => hx slot heq.symm)]
    exact h.hidden x hx

/-- Using the two numbers of one slot. -/
theorem coupled_useSlot (h₁ : Function.Injective f₁) (h₂ : Function.Injective f₂) (slot : Nat)
    (use : Option SlotMemory → α × SlotMemory) :
    Coupled (Agree storage name f₁ f₂) (useSlot (f₁ slot) use) (useSlot (f₂ slot) use) := by
  intro memory₁ memory₂ hagree
  have hcontent := hagree.slots slot
  refine ⟨?_, hagree.left.useSlot_reached use, hagree.right.useSlot_reached use, fun x => ?_⟩
  · change (use _).1 = (use _).1
    rw [hcontent]
  · rw [get?_useSlot, get?_useSlot, hcontent]
    -- Injective renamings keep other slots apart from the one that is used.
    by_cases hx : x = slot
    · rw [if_pos (congrArg f₁ hx), if_pos (congrArg f₂ hx)]
    · rw [if_neg (fun heq => hx (h₁ heq)), if_neg (fun heq => hx (h₂ heq))]
      exact hagree.slots x

/-- Using a slot of the edited column. -/
theorem keeps_useSlot {slot : Nat} (hslot : ∀ x, f₁ x ≠ slot)
    {use : Option SlotMemory → α × SlotMemory}
    (huse : ∀ content, BelongsTo name content → BelongsTo name (some (use content).2))
    (memory₂ : Memory) :
    Keeps (fun memory₁ => Agree storage name f₁ f₂ memory₁ memory₂) (useSlot slot use) := by
  intro memory₁ hagree
  refine ⟨⟨hagree.left.truthful, fun x hx => ?_⟩, hagree.right, fun x => ?_⟩
  · rw [get?_useSlot]
    split
    · exact huse _ (hagree.left.hidden slot hslot)
    · exact hagree.left.hidden x hx
  · rw [get?_useSlot, if_neg (hslot x)]
    exact hagree.slots x

section Hidden

variable {slot : Nat} (hslot : ∀ x, f₁ x ≠ slot)
include hslot

theorem keeps_isNew (key : List String) (memory₂ : Memory) :
    Keeps (fun memory₁ => Agree storage name f₁ f₂ memory₁ memory₂) (isNew slot key) := by
  refine keeps_useSlot hslot (fun content _ references h => ?_) memory₂
  split at h
  · split at h <;> cases h
  · cases h

theorem keeps_firstValue (value : String) (memory₂ : Memory) :
    Keeps (fun memory₁ => Agree storage name f₁ f₂ memory₁ memory₂) (firstValue slot value) := by
  refine keeps_useSlot hslot (fun content _ references h => ?_) memory₂
  split at h <;> cases h

/-- References keep their column. -/
theorem keeps_refer {initial : References} (hcolumn : initial.column = name) (root : Path)
    (path : Option (List PathPart)) (memory₂ : Memory) :
    Keeps (fun memory₁ => Agree storage name f₁ f₂ memory₁ memory₂)
      (refer slot initial root path) := by
  refine keeps_useSlot hslot (fun content hcontent references h => ?_) memory₂
  cases h
  split
  · rename_i references
    exact hcontent references rfl
  · exact hcolumn

end Hidden

section Atoms

variable (hstorage : storage.ByParts) {scope : Scope}
  (hscope : scope.environment.storage = storage)
include hstorage hscope

/-- An atomic check with its two numbers of a slot. -/
theorem coupled_atom (h₁ : Function.Injective f₁) (h₂ : Function.Injective f₂) (atom : Atom)
    (value : String) :
    Coupled (Agree storage name f₁ f₂) ((atom.mapSlots f₁).evaluate scope value)
      ((atom.mapSlots f₂).evaluate scope value) := by
  cases atom with
  | unique columns slot =>
      simp only [Atom.mapSlots, Atom.evaluate, findUnique]
      split
      · exact .pure _
      · exact (coupled_useSlot h₁ h₂ slot _).bind fun _ => .pure _
  | identical slot =>
      simp only [Atom.mapSlots, Atom.evaluate, findIdentical]
      exact (coupled_useSlot h₁ h₂ slot _).bind fun _ => .pure _
  | integrity folder subfolder rule slot =>
      simp only [Atom.mapSlots, Atom.evaluate, findReference]
      split
      · exact .pure _
      · refine (coupled_of_isQuery (isQuery_locate? hstorage hscope _)).bind fun found => ?_
        cases found with
        | none => exact .pure _
        | some root =>
            -- The folder is noted before anything in it is looked for.
            refine (coupled_useSlot h₁ h₂ slot _).bind fun _ => ?_
            refine (coupled_of_isQuery (isQuery_findBelow hstorage hscope _ _ _)).bind
              fun path => ?_
            cases path with
            | error detail => exact .pure _
            | ok path => exact (coupled_useSlot h₁ h₂ slot _).bind fun _ => .pure _
  | fileExists folder => exact coupled_of_isQuery (isQuery_findFile hstorage hscope value folder)
  | checksum file algorithm =>
      exact coupled_of_isQuery (isQuery_findChecksum hstorage hscope value file algorithm)
  | fileCount folder => exact coupled_of_isQuery (isQuery_findCount hstorage hscope value folder)
  | _ => exact .pure _

/-- An atomic check of the edited column. -/
theorem keeps_atom (hcolumn : scope.column = name) (atom : Atom)
    (hslots : ∀ slot ∈ atom.slots, ∀ x, f₁ x ≠ slot) (value : String) (memory₂ : Memory) :
    Keeps (fun memory₁ => Agree storage name f₁ f₂ memory₁ memory₂)
      (atom.evaluate scope value) := by
  -- Three kinds of checks use their slot, which the other side has not; three ask about files.
  cases atom with
  | unique columns slot =>
      have hslot := hslots slot (by simp [Atom.slots])
      simp only [Atom.evaluate, findUnique]
      split
      · exact .pure _
      · exact (keeps_isNew hslot _ memory₂).bind fun _ => .pure _
  | identical slot =>
      have hslot := hslots slot (by simp [Atom.slots])
      simp only [Atom.evaluate, findIdentical]
      exact (keeps_firstValue hslot _ memory₂).bind fun _ => .pure _
  | integrity folder subfolder rule slot =>
      have hslot := hslots slot (by simp [Atom.slots])
      simp only [Atom.evaluate, findReference]
      split
      · exact .pure _
      · refine (keeps_of_isQuery (isQuery_locate? hstorage hscope _) memory₂).bind fun found => ?_
        cases found with
        | none => exact .pure _
        | some root =>
            refine (keeps_refer hslot hcolumn root none memory₂).bind fun _ => ?_
            refine (keeps_of_isQuery (isQuery_findBelow hstorage hscope _ _ _) memory₂).bind
              fun path => ?_
            cases path with
            | error detail => exact .pure _
            | ok path =>
                exact (keeps_refer hslot hcolumn root (some path) memory₂).bind fun _ => .pure _
  | fileExists folder =>
      exact keeps_of_isQuery (isQuery_findFile hstorage hscope value folder) memory₂
  | checksum file algorithm =>
      exact keeps_of_isQuery (isQuery_findChecksum hstorage hscope value file algorithm) memory₂
  | fileCount folder =>
      exact keeps_of_isQuery (isQuery_findCount hstorage hscope value folder) memory₂
  | _ => exact .pure _

end Atoms

end Memory

end CsvSchema
