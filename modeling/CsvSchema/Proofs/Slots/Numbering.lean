import CsvSchema.Proofs.Reporting
import CsvSchema.Proofs.Slots.Nodes
import CsvSchema.Proofs.Independence.Memories

/-!
# The numbers of slots

A schema that builds numbers its slots in the order of its text.  A slot is taken by a node of one
of three tags and by nothing else, `reduceChild_next`, so a number is left out only for a node in a
comment, which vanishes with what is below it, `reduceChild_filled`.  `Schema.slots_numbered` puts
this together with the number of slots that the schema knows, and with what the numbers are for: no
check touches the slot of another one.
-/

namespace CsvSchema

open Fallible Stateful

/-- Whether the nodes of a tag take a slot. -/
def takesSlot (tag : String) : Bool :=
  ["unique_expr", "identical_expr", "integrity_check_expr"].contains tag

mutual

/-- How many nodes of a tree take a slot. -/
def Child.slotCount : Child → Nat
  | .token _ => 0
  | .node tag children _ => slotCounts children + if takesSlot tag then 1 else 0

/-- How many nodes of some trees take a slot. -/
def slotCounts : List Child → Nat
  | [] => 0
  | child :: rest => child.slotCount + slotCounts rest

end

mutual

/-- Whether no node of a tree that takes a slot is in a comment. -/
def Child.hasPlainComments : Child → Bool
  | .token _ => true
  | .node tag children _ =>
      (tag != "comment" || slotCounts children == 0) && havePlainComments children

/-- Whether no node of some trees that takes a slot is in a comment. -/
def havePlainComments : List Child → Bool
  | [] => true
  | child :: rest => child.hasPlainComments && havePlainComments rest

end

section Tags

theorem NodeKind.mem_tags_of_ofTag? {tag : String} {kind : NodeKind} (h : ofTag? tag = some kind) :
    (tag, kind) ∈ tags := by
  obtain ⟨before, after, heq, -⟩ := List.lookup_eq_some_iff.1 h
  rw [heq]
  simp

theorem NodeKind.eq_of_ofTag?_comment {tag : String} (h : ofTag? tag = some .comment) :
    tag = "comment" := by
  have hmem := mem_tags_of_ofTag? h
  simpa [tags, GlobalDirective.all, ColumnDirective.all] using hmem

/-- The three tags are those of the nodes that take a slot. -/
theorem NodeKind.slots_of_ofTag? {tag : String} {kind : NodeKind} (h : ofTag? tag = some kind) :
    kind.slots = if takesSlot tag then 1 else 0 := by
  have htags : ∀ entry ∈ tags, entry.2.slots = if takesSlot entry.1 then 1 else 0 := by
    decide +kernel
  exact htags (tag, kind) (mem_tags_of_ofTag? h)

theorem NodeKind.takesSlot_of_ofTag?_eq_none {tag : String} (h : ofTag? tag = none) :
    takesSlot tag = false := by
  cases htakes : takesSlot tag with
  | false => rfl
  | true =>
      rw [takesSlot, List.contains_iff_mem] at htakes
      simp only [List.mem_cons, List.not_mem_nil, or_false] at htakes
      rcases htakes with rfl | rfl | rfl <;> simp [ofTag?, tags, List.lookup_cons] at h

variable {tag : String} {slot next : Nat} {parts : List Part} {part : Part}

/-- A tag moves the next free slot by one if its nodes take a slot, and leaves it otherwise. -/
theorem reduceTag_next (h : reduceTag tag slot parts = .ok (part, next)) :
    next = slot + if takesSlot tag then 1 else 0 := by
  rcases of_reduceTag h with ⟨kind, hkind, -, rfl⟩ | ⟨hnone, -, rfl⟩
  · rw [NodeKind.slots_of_ofTag? hkind]
  · rw [NodeKind.takesSlot_of_ofTag?_eq_none hnone]
    rfl

/-- A comment forgets the slots below it.  Any other node has them, and after them its own. -/
theorem slots_of_reduceTag (h : reduceTag tag slot parts = .ok (part, next)) :
    tag = "comment" ∧ part.slots = [] ∨
      part.slots = parts.flatMap Part.slots ++ List.range' slot (next - slot) := by
  rcases of_reduceTag h with ⟨kind, hkind, hmade, rfl⟩ | ⟨-, rfl, rfl⟩
  · by_cases hcomment : kind = .comment
    · subst hcomment
      cases hmade
      exact .inl ⟨NodeKind.eq_of_ofTag?_comment hkind, rfl⟩
    · rw [(NodeKind.respects_reduce hmade hcomment).slots, Nat.add_sub_cancel_left]
      exact .inr rfl
  · simp

end Tags

section Trees

mutual

/-- A tree takes as many slots as it has nodes that take one, also in comments. -/
theorem reduceChild_next {room slot next : Nat} {child : Child} {part : Part}
    (h : reduceChild room slot child = .ok (part, next)) : next = slot + child.slotCount := by
  cases child with
  | token text =>
      cases h
      rfl
  | node tag children span =>
      obtain ⟨below, parts, middle, rfl, hchildren, htag⟩ := reduceChild_node_eq_ok.1 h
      rw [reduceTag_next htag, reduceChildren_next hchildren, Child.slotCount, Nat.add_assoc]

theorem reduceChildren_next {room slot next : Nat} {children : List Child} {parts : List Part}
    (h : reduceChildren room slot children = .ok (parts, next)) :
    next = slot + slotCounts children := by
  cases children with
  | nil =>
      cases h
      rfl
  | cons child rest =>
      obtain ⟨part, middle, others, hchild, hrest, -⟩ := reduceChildren_cons_eq_ok.1 h
      rw [reduceChildren_next hrest, reduceChild_next hchild, slotCounts, Nat.add_assoc]

end

theorem range'_append_of_le {low middle high : Nat} (hlow : low ≤ middle) (hhigh : middle ≤ high) :
    List.range' low (middle - low) ++ List.range' middle (high - middle) =
      List.range' low (high - low) := by
  have hstart : middle = low + (middle - low) := by omega
  have hlength : high - low = (middle - low) + (high - middle) := by omega
  rw [hlength, ← List.range'_append_1, ← hstart]

theorem slots_kept (part : Part) : part.kept.flatMap Part.slots = part.slots := by
  cases part <;> simp [Part.kept, Part.isComment, Part.slots]

mutual

/-- Without slots in comments a tree has all slots that it takes. -/
theorem reduceChild_filled {room slot next : Nat} {child : Child} {part : Part}
    (h : reduceChild room slot child = .ok (part, next)) (hplain : child.hasPlainComments = true) :
    part.slots = List.range' slot (next - slot) := by
  cases child with
  | token text =>
      cases h
      simp [Part.slots]
  | node tag children span =>
      simp only [Child.hasPlainComments, Bool.and_eq_true, Bool.or_eq_true, bne_iff_ne,
        beq_iff_eq] at hplain
      obtain ⟨below, parts, middle, rfl, hchildren, htag⟩ := reduceChild_node_eq_ok.1 h
      have hmiddle := reduceChildren_next hchildren
      have hnext := reduceTag_next htag
      rcases slots_of_reduceTag htag with ⟨rfl, hslots⟩ | hslots
      · -- A comment takes no slot for itself, and by assumption none is taken below it.
        have hcount : slotCounts children = 0 := by simpa using hplain.1
        have hsame : next - slot = 0 := by
          rw [hnext, hmiddle, hcount]
          simp [takesSlot]
        rw [hslots, hsame, List.range'_zero]
      · rw [hslots, reduceChildren_filled hchildren hplain.2]
        exact range'_append_of_le (by omega) (by omega)

theorem reduceChildren_filled {room slot next : Nat} {children : List Child} {parts : List Part}
    (h : reduceChildren room slot children = .ok (parts, next))
    (hplain : havePlainComments children = true) :
    parts.flatMap Part.slots = List.range' slot (next - slot) := by
  cases children with
  | nil =>
      cases h
      simp
  | cons child rest =>
      simp only [havePlainComments, Bool.and_eq_true] at hplain
      obtain ⟨part, middle, others, hchild, hrest, rfl⟩ := reduceChildren_cons_eq_ok.1 h
      have hmiddle := (reduceChild_numbered hchild).le
      have hnext := (reduceChildren_numbered hrest).le
      rw [List.flatMap_append, slots_kept, reduceChild_filled hchild hplain.1,
        reduceChildren_filled hrest hplain.2]
      exact range'_append_of_le hmiddle hnext

end

end Trees

section Totals

/-- The slots of a part are below the number of slots that the part knows, if it knows one. -/
def Part.Counted (part : Part) : Prop := ∀ total ∈ part.total?, ∀ slot ∈ part.slots, slot < total

theorem Part.counted_of_total?_eq_none {part : Part} (h : part.total? = none) : part.Counted := by
  simp [Counted, h]

/-- The columns of a schema are counted when all of them have their slots. -/
theorem NodeKind.counted_reduce {kind : NodeKind} {slot : Nat} {parts : List Part} {part : Part}
    (h : kind.reduce slot parts = .ok part) (hbelow : ∀ x ∈ parts.flatMap Part.slots, x < slot)
    (hparts : ∀ p ∈ parts, p.Counted) : part.Counted := by
  cases kind with
  -- Only a body counts its slots, and a schema and the start take the number over.
  | body =>
      have hslots := (respects_reduceBody h).slots
      obtain ⟨columns, -, hpart⟩ := bind_eq_ok.1 h
      rw [← pure_eq_ok.1 hpart] at hslots ⊢
      rintro total hmem x hx
      cases hmem
      rw [hslots, List.range'_zero, List.append_nil] at hx
      exact hbelow x hx
  | schema =>
      obtain ⟨schema, hschema, rfl⟩ := map_eq_ok.1 h
      obtain ⟨rfl, -⟩ := (reduceSchema_eq_ok_iff schema).1 hschema
      exact hparts (.body schema.columns schema.slots) (by simp)
  | start =>
      obtain ⟨schema, hschema, rfl⟩ := map_eq_ok.1 h
      obtain rfl := (reduceStart_eq_ok_iff schema).1 hschema
      exact hparts (.schema schema) (by simp)
  | bodyPart =>
      rcases (reduceBodyPart_eq_ok_iff part).1 h with ⟨rfl, rfl⟩ | rfl
      · exact Part.counted_of_total?_eq_none rfl
      · exact hparts part (by simp)
  | comment =>
      cases h
      exact Part.counted_of_total?_eq_none rfl
  | prolog =>
      exact Part.counted_of_total?_eq_none (Part.total?_of_isPlain (allPlain_of_reduceProlog h).2)
  | columnDirective directive =>
      obtain ⟨-, rfl⟩ := reduceFlag_eq_ok_iff.1 h
      exact Part.counted_of_total?_eq_none rfl
  | check =>
      obtain ⟨check, -, rfl⟩ := reduce_check_eq_ok_iff.1 h
      exact Part.counted_of_total?_eq_none rfl
  | _ =>
      obtain ⟨made, -, rfl⟩ := map_eq_ok.1 h
      exact Part.counted_of_total?_eq_none rfl

theorem counted_reduceTag {tag : String} {low slot next : Nat} {parts : List Part} {part : Part}
    (h : reduceTag tag slot parts = .ok (part, next)) (hnumbered : Numbered low slot parts)
    (hparts : ∀ p ∈ parts, p.Counted) : part.Counted := by
  rcases of_reduceTag h with ⟨kind, -, hmade, -⟩ | ⟨-, rfl, -⟩
  · exact NodeKind.counted_reduce hmade (fun x hx => (hnumbered.bounds x hx).2) hparts
  · exact hparts part (by simp)

theorem reduceChild_counted {room slot next : Nat} {child : Child} {part : Part}
    (h : reduceChild room slot child = .ok (part, next)) : part.Counted :=
  forall_of_reduceChild (fun _ => Part.counted_of_total?_eq_none rfl) counted_reduceTag h

end Totals

section Isolation

variable {scope : Scope} {slot : Nat} {content : Option SlotMemory}

/-- What a slot holds. -/
def Memory.Holds (slot : Nat) (content : Option SlotMemory) (memory : Memory) : Prop :=
  memory.slots.get? slot = content

theorem keeps_holds_probe {α : Type} (question : StateM Probes α) :
    Keeps (Memory.Holds slot content) (Memory.probe question) := fun _ h => h

theorem keeps_holds_useSlot {α : Type} {other : Nat} (hother : slot ≠ other)
    (use : Option SlotMemory → α × SlotMemory) :
    Keeps (Memory.Holds slot content) (Memory.useSlot other use) := by
  intro memory h
  rw [Memory.Holds, Memory.get?_useSlot, if_neg hother]
  exact h

/-- An atomic check leaves the slots of others as they are. -/
theorem keeps_holds_atom (atom : Atom) (hslot : ∀ other ∈ atom.slots, other ≠ slot)
    (value : String) : Keeps (Memory.Holds slot content) (atom.evaluate scope value) :=
  composes_atom (composes_keeps _) keeps_holds_probe
    (fun _ _ hother => keeps_holds_useSlot hother.symm _)
    (fun _ _ hother => keeps_holds_useSlot hother.symm _)
    (fun _ _ _ _ hother _ => keeps_holds_useSlot hother.symm _) atom hslot value

/-- So does any other check that has no part with the slot. -/
theorem keeps_holds_evaluate (check : Check) (hslot : slot ∉ check.slots) (value : String) :
    Keeps (Memory.Holds slot content) (check.evaluate scope value) :=
  keeps_evaluate (p := fun other => other ≠ slot) keeps_holds_atom check
    (fun _ hmem heq => hslot (heq ▸ hmem)) value

end Isolation

namespace Schema

/-- The slots of a schema that builds increase in the order of its text and are below the number of
slots that it knows.  If no comment takes any, they are all numbers below that one.  So no two
checks have the same slot, and a check changes no slot but its own. -/
theorem slots_numbered {tree : Node} {schema : Schema} (h : ofTree tree = .ok schema) :
    (columnSlots schema.columns).Pairwise (· < ·) ∧
      (∀ slot ∈ columnSlots schema.columns, slot < schema.slots) ∧
      (tree.toChild.hasPlainComments = true →
        columnSlots schema.columns = List.range schema.slots) ∧
      ∀ (environment : Environment) (row : Row) (fold : Bool) (level : Option Severity)
        (check : Check) (value : String) (session : Session) (slot : Nat), slot ∉ check.slots →
        (Session.validate environment row fold level check value session).2.memory.slots.get? slot =
          session.memory.slots.get? slot := by
  obtain ⟨next, hpart⟩ := ofTree_eq_ok.1 h
  have hnumbered := reduceChild_numbered hpart
  have hbelow : ∀ slot ∈ columnSlots schema.columns, slot < schema.slots :=
    reduceChild_counted hpart schema.slots rfl
  have hpairwise := hnumbered.increasing
  rw [List.flatMap_singleton] at hpairwise
  refine ⟨hpairwise, hbelow, fun hplain => ?_, ?_⟩
  · have hfilled : columnSlots schema.columns = List.range' 0 (next - 0) :=
      reduceChild_filled hpart hplain
    have htotal := hnumbered.totals _ (List.mem_singleton.2 rfl) schema.slots rfl
    -- Every number below `next` is a slot, so the schema knows of no fewer slots than that.
    have hnext : next = schema.slots := by
      rcases Nat.eq_zero_or_pos next with hzero | hpos
      · omega
      · have hlast := hbelow (next - 1) (by rw [hfilled, List.mem_range'_1]; omega)
        omega
    rw [hfilled, hnext, List.range_eq_range', Nat.sub_zero]
  · intro environment row fold level check value session slot hslot
    rw [Session.validate_eq_settle, Session.settle_memory]
    exact keeps_holds_evaluate check hslot value session.memory rfl

/-- The tree of a schema with two columns, the first of which remembers earlier records in the parts
of a check and of a case. -/
def treeOfNestedChecks (between : List Child) : Node :=
  let leaf (tag : String) : Child := .node tag [] none
  let column (name : String) (check : Child) : Child :=
    .node "column_definition" [.token name, .node "column_rule" [check] none] none
  let either : Child := .node "or_expr" [leaf "unique_expr", leaf "empty_expr"] none
  let case : Child := .node "switch_case_expr" [either, leaf "identical_expr"] none
  ⟨"schema", [.node "prolog" [.token "version 1.0"] none,
    .node "body" ([column "a:" (.node "switch_expr" [case] none)] ++ between ++
      [column "b:" (.node "single_expr" [leaf "unique_expr"] none)]) none], none⟩

/-- Three checks that remember, without and with another one in a comment between them. -/
theorem slots_numbered_of_nested_checks :
    let comment : Child := .node "comment" [.node "unique_expr" [] none] none
    ∃ schema₁ schema₂, ofTree (treeOfNestedChecks []) = .ok schema₁ ∧
      ofTree (treeOfNestedChecks [comment]) = .ok schema₂ ∧
      (treeOfNestedChecks []).toChild.hasPlainComments = true ∧
      (treeOfNestedChecks [comment]).toChild.hasPlainComments = false ∧
      columnSlots schema₁.columns = List.range schema₁.slots ∧ schema₁.slots = 3 ∧
      columnSlots schema₂.columns = [0, 1, 3] ∧ (columnSlots schema₂.columns).Pairwise (· < ·) ∧
      ∀ slot ∈ columnSlots schema₂.columns, slot < schema₂.slots := by
  intro comment
  let schema (last slots : Nat) : Schema := ⟨.v10, .initial,
    [⟨"a", ⟨[.switch [.mk (.or [.atom (.unique [] 0), .atom (.value .empty)])
        [.atom (.identical 1)]] none], .initial⟩⟩,
      ⟨"b", ⟨[.single none (.atom (.unique [] last))], .initial⟩⟩], slots⟩
  have h₁ : ofTree (treeOfNestedChecks []) = .ok (schema 2 3) := by with_unfolding_all rfl
  have h₂ : ofTree (treeOfNestedChecks [comment]) = .ok (schema 3 4) := by with_unfolding_all rfl
  have hplain : (treeOfNestedChecks []).toChild.hasPlainComments = true := by decide
  obtain ⟨hpairwise, hbelow, -⟩ := slots_numbered h₂
  exact ⟨schema 2 3, schema 3 4, h₁, h₂, hplain, by decide, (slots_numbered h₁).2.2.1 hplain, rfl,
    by decide, hpairwise, hbelow⟩

end Schema

end CsvSchema
