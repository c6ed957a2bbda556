import CsvSchema.Proofs.Slots.Documents

/-!
# Slots in parse trees

The slots that a tree takes are numbered in the order of the text, from the first free one to the
next free one, `reduceChild_numbered`.  With that a property of parts that every tag keeps holds of
what a tree is reduced to, `forall_of_reduceChild`.  Where the numbering starts and how much room
there is does not matter: from another slot and with more room the same part comes out with its
slots shifted, `reduceChild_shift`.
-/

namespace CsvSchema

open Fallible

/-- Whether a node of a kind can be made of columns. -/
def NodeKind.ofDocument : NodeKind → Bool
  | start | schema | body | bodyPart => true
  | _ => false

/-- Only a comment forgets the slots of what it is made of. -/
theorem NodeKind.respects_reduce {kind : NodeKind} {slot : Nat} {parts : List Part} {part : Part}
    (h : kind.reduce slot parts = .ok part) (hcomment : kind ≠ .comment) :
    Respects (fun slot => NodeKind.reduce slot kind) kind.slots kind.ofDocument slot parts
      part := by
  cases kind with
  | comment => exact absurd rfl hcomment
  | body => exact respects_reduceBody h
  | bodyPart => exact respects_reduceBodyPart h
  | prolog =>
      obtain ⟨hparts, hpart⟩ := allPlain_of_reduceProlog h
      exact respects_of_allPlain _ h hparts (Part.slots_of_isPlain hpart)
        (Part.total?_of_isPlain hpart)
  | columnDirective directive =>
      obtain ⟨rfl, rfl⟩ := reduceFlag_eq_ok_iff.1 h
      exact respects_of_allPlain _ h (allPlain_nil.2 trivial) rfl rfl
  | check => exact respects_reduce_check h
  | start => exact respects_of_map h fun _ => respects_reduceStart
  | schema => exact respects_of_map h fun _ => respects_reduceSchema
  | settings =>
      exact respects_of_map_allPlain h (fun _ => allPlain_of_reduceSettings) fun _ => rfl
  | column => exact respects_of_map h fun _ => respects_reduceColumn
  | rule => exact respects_of_map h fun _ => respects_reduceRule
  | columnSettings =>
      exact respects_of_map_allPlain h (fun _ => allPlain_of_reduceColumnSettings) fun _ => rfl
  | single => exact respects_of_map h fun _ => respects_reduceSingle
  | parenthesized => exact respects_of_map h fun _ => respects_reduceParenthesized
  | comparison _ | any | regex | range | length | plain _ | identical | unique | dateTime
  | zonedDateTime | date | time | ukDate | composedDate | partialDate | fileExists | integrity
  | checksum | fileCount => exact respects_of_isAtomic rfl h
  | or | and =>
      refine respects_of_map h fun _ => respects_reduceLogical ?_ ?_
      · intro checks
        simp only [Check.slots]
      · intro f checks
        simp only [Check.mapSlots]
  | conditional => exact respects_of_map h fun _ => respects_reduceConditional
  | clause => exact respects_of_map h fun _ => respects_reduceChecks
  | switch => exact respects_of_map h fun _ => respects_reduceSwitch
  | switchCase => exact respects_of_map h fun _ => respects_reduceCase
  | provided | reference | concat | noExtension | uriDecode | file =>
      obtain ⟨operand, hoperand, rfl⟩ := readsOperand_of_reduce rfl h
      exact respects_of_allPlain _ h hoperand.allPlain rfl rfl
  | setting directive =>
      exact respects_of_map_allPlain h (fun _ => allPlain_of_reduceSetting) fun _ => rfl

/-- The slots of some parts increase and lie between two numbers, and so do the numbers of slots
that the parts know. -/
structure Numbered (low high : Nat) (parts : List Part) : Prop where
  le : low ≤ high
  increasing : (parts.flatMap Part.slots).Pairwise (· < ·)
  bounds : ∀ x ∈ parts.flatMap Part.slots, low ≤ x ∧ x < high
  totals : ∀ p ∈ parts, ∀ total ∈ p.total?, low ≤ total ∧ total ≤ high

namespace Numbered

variable {low middle high : Nat} {parts rest : List Part}

theorem nil (low : Nat) : Numbered low low [] := ⟨Nat.le_refl _, by simp, by simp, by simp⟩

theorem of_slots_eq_nil {part : Part} (hle : low ≤ high) (hslots : part.slots = [])
    (htotal : part.total? = none) : Numbered low high [part] :=
  ⟨hle, by simp [hslots], by simp [hslots], by simp [htotal]⟩

/-- The numbers of later parts are above those of earlier ones. -/
theorem append (h : Numbered low middle parts) (hrest : Numbered middle high rest) :
    Numbered low high (parts ++ rest) where
  le := Nat.le_trans h.le hrest.le
  increasing := by
    rw [List.flatMap_append, List.pairwise_append]
    refine ⟨h.increasing, hrest.increasing, fun x hx y hy => ?_⟩
    have hxm := (h.bounds x hx).2
    have hmy := (hrest.bounds y hy).1
    omega
  bounds := by
    intro x hx
    rw [List.flatMap_append, List.mem_append] at hx
    have hlow := h.le
    have hhigh := hrest.le
    rcases hx with hx | hx
    · have hbounds := h.bounds x hx
      omega
    · have hbounds := hrest.bounds x hx
      omega
  totals := by
    intro p hp total htotal
    have hlow := h.le
    have hhigh := hrest.le
    rcases List.mem_append.1 hp with hp | hp
    · have hbounds := h.totals p hp total htotal
      omega
    · have hbounds := hrest.totals p hp total htotal
      omega

/-- A node that respects slots keeps them in order, with its own ones at the end. -/
theorem of_respects {reduce : Nat → List Part → Except Fault Part} {own : Nat} {document : Bool}
    {slot : Nat} {part : Part} (h : Numbered low slot parts)
    (hpart : Respects reduce own document slot parts part) :
    Numbered low (slot + own) [part] where
  le := Nat.le_trans h.le (Nat.le_add_right _ _)
  increasing := by
    rw [List.flatMap_singleton, hpart.slots, List.pairwise_append]
    refine ⟨h.increasing, List.pairwise_lt_range', fun x hx y hy => ?_⟩
    have hxs := (h.bounds x hx).2
    have hsy := (List.mem_range'_1.1 hy).1
    omega
  bounds := by
    intro x hx
    rw [List.flatMap_singleton, hpart.slots, List.mem_append, List.mem_range'_1] at hx
    have hlow := h.le
    rcases hx with hx | hx
    · have hbounds := h.bounds x hx
      omega
    · omega
  totals := by
    intro p hp total htotal
    rw [List.mem_singleton.1 hp] at htotal
    have hlow := h.le
    rcases hpart.total total htotal with rfl | ⟨q, hq, hmem⟩
    · omega
    · have hbounds := h.totals q hq total hmem
      omega

/-- A renaming acts on numbered parts by what it does between their bounds. -/
theorem map_mapSlots_congr {f g : Nat → Nat} (h : Numbered low high parts)
    (hfg : ∀ x, low ≤ x → x ≤ high → f x = g x) :
    parts.map (Part.mapSlots f) = parts.map (Part.mapSlots g) := by
  refine List.map_congr_left fun part hpart => part.mapSlots_congr (fun x hx => ?_) ?_
  · have hbounds := h.bounds x (List.mem_flatMap.2 ⟨part, hpart, hx⟩)
    exact hfg x hbounds.1 (Nat.le_of_lt hbounds.2)
  · intro total htotal
    have hbounds := h.totals part hpart total htotal
    exact hfg total hbounds.1 hbounds.2

end Numbered

section Trees

variable {tag : String} {room slot next : Nat} {parts : List Part} {part : Part}

theorem respects_of_wrapper (tag : String) (slot : Nat) (part : Part) :
    Respects (fun _ parts => match parts with
      | [part] => .ok part
      | parts => .error (.unknownNode tag parts.length)) 0 true slot [part] part :=
  ⟨by simp, fun total hmem => .inr ⟨part, by simp, hmem⟩, by simp, fun f => rfl⟩

/-- A tag is that of a comment, or else what it makes respects slots. -/
theorem cases_reduceTag (h : reduceTag tag slot parts = .ok (part, next)) :
    (∀ slot parts, reduceTag tag slot parts = .ok (.comment, slot)) ∨
      ∃ reduce own document,
        (∀ slot parts, reduceTag tag slot parts = (reduce slot parts).map (·, slot + own)) ∧
        Respects reduce own document slot parts part ∧ next = slot + own := by
  unfold reduceTag at h ⊢
  cases hkind : NodeKind.ofTag? tag with
  | some kind =>
      simp only [hkind] at h ⊢
      by_cases hcomment : kind = .comment
      · subst hcomment
        exact .inl fun slot parts => rfl
      · obtain ⟨result, hresult, heq⟩ := map_eq_ok.1 h
        obtain ⟨rfl, rfl⟩ := Prod.mk.inj heq
        exact .inr ⟨fun slot => NodeKind.reduce slot kind, kind.slots, kind.ofDocument,
          fun slot parts => rfl, NodeKind.respects_reduce hresult hcomment, rfl⟩
  | none =>
      simp only [hkind] at h ⊢
      split at h
      · cases h
      · rename_i hdirective
        split at h
        · cases h
          -- An unknown tag around a single part is passed through.
          refine .inr ⟨_, 0, true, fun slot parts => ?_, respects_of_wrapper tag slot part, rfl⟩
          rw [if_neg hdirective]
          rcases parts with _ | ⟨a, _ | ⟨b, rest⟩⟩
          · rfl
          · rfl
          · rfl
        · cases h

/-- A tag that is known makes its part of those below it, and any other one stands for the only
part below it. -/
theorem of_reduceTag (h : reduceTag tag slot parts = .ok (part, next)) :
    (∃ kind, NodeKind.ofTag? tag = some kind ∧ kind.reduce slot parts = .ok part ∧
      next = slot + kind.slots) ∨
    NodeKind.ofTag? tag = none ∧ parts = [part] ∧ next = slot := by
  unfold reduceTag at h
  cases hkind : NodeKind.ofTag? tag with
  | some kind =>
      simp only [hkind] at h
      obtain ⟨result, hresult, heq⟩ := map_eq_ok.1 h
      obtain ⟨rfl, rfl⟩ := Prod.mk.inj heq
      exact .inl ⟨kind, rfl, hresult, rfl⟩
  | none =>
      simp only [hkind] at h
      split at h
      · cases h
      · split at h
        · cases h
          exact .inr ⟨rfl, rfl, rfl⟩
        · cases h

theorem le_of_reduceTag (h : reduceTag tag slot parts = .ok (part, next)) : slot ≤ next := by
  rcases cases_reduceTag h with hcomment | ⟨reduce, own, document, -, -, rfl⟩
  · rw [hcomment] at h
    cases h
    exact Nat.le_refl slot
  · exact Nat.le_add_right slot own

theorem numbered_reduceTag {low : Nat} (h : reduceTag tag slot parts = .ok (part, next))
    (hparts : Numbered low slot parts) : Numbered low next [part] := by
  rcases cases_reduceTag h with hcomment | ⟨reduce, own, document, -, hrespects, rfl⟩
  · rw [hcomment] at h
    cases h
    exact .of_slots_eq_nil hparts.le rfl rfl
  · exact hparts.of_respects hrespects

/-- A tag treats slots as names. -/
theorem reduceTag_mapSlots (h : reduceTag tag slot parts = .ok (part, next)) (f : Nat → Nat) :
    reduceTag tag (f slot) (parts.map (Part.mapSlots f)) =
      .ok (part.mapSlots f, f slot + (next - slot)) := by
  rcases cases_reduceTag h with hcomment | ⟨reduce, own, document, heq, hrespects, rfl⟩
  · rw [hcomment] at h
    cases h
    rw [hcomment, Nat.sub_self]
    rfl
  · rw [heq, hrespects.natural f, Nat.add_sub_cancel_left]
    rfl

theorem raiseAt_eq_ok {α : Type} {span : Option Span} {result : Except Fault α} {a : α} :
    raiseAt tag span result = .ok a ↔ result = .ok a := by
  cases result with
  | error fault => simp [raiseAt]
  | ok b => simp [raiseAt]

theorem passAt_eq_ok {α : Type} {span : Option Span} {result : Except Diagnostic α} {a : α} :
    passAt tag span result = .ok a ↔ result = .ok a := by
  cases result with
  | error diagnostic => simp [passAt]
  | ok b => simp [passAt]

/-- A node reduces to what its tag makes of the parts of its children. -/
theorem reduceChild_node_eq_ok {children : List Child} {span : Option Span} :
    reduceChild room slot (.node tag children span) = .ok (part, next) ↔
      ∃ below parts middle, room = below + 1 ∧
        reduceChildren below slot children = .ok (parts, middle) ∧
        reduceTag tag middle parts = .ok (part, next) := by
  cases room with
  | zero => simp [reduceChild, raiseAt]
  | succ below =>
      simp only [reduceChild, bind_eq_ok, passAt_eq_ok, raiseAt_eq_ok, Prod.exists,
        Nat.add_right_cancel_iff]
      constructor
      · rintro ⟨parts, middle, hchildren, htag⟩
        exact ⟨below, parts, middle, rfl, hchildren, htag⟩
      · rintro ⟨_, parts, middle, rfl, hchildren, htag⟩
        exact ⟨parts, middle, hchildren, htag⟩

/-- The part of a child, unless it is a comment. -/
def Part.kept (part : Part) : List Part := if part.isComment then [] else [part]

theorem reduceChildren_cons_eq_ok {child : Child} {rest : List Child} :
    reduceChildren room slot (child :: rest) = .ok (parts, next) ↔
      ∃ part middle others, reduceChild room slot child = .ok (part, middle) ∧
        reduceChildren room middle rest = .ok (others, next) ∧ parts = part.kept ++ others := by
  simp only [reduceChildren, bind_eq_ok, pure_eq_ok, Prod.exists, Prod.mk.injEq]
  constructor
  · rintro ⟨part, middle, hchild, others, next, hrest, rfl, rfl⟩
    refine ⟨part, middle, others, hchild, hrest, ?_⟩
    unfold Part.kept
    split <;> rfl
  · rintro ⟨part, middle, others, hchild, hrest, rfl⟩
    refine ⟨part, middle, hchild, others, next, hrest, ?_, rfl⟩
    unfold Part.kept
    split <;> rfl

theorem reduceChildren_append_eq_ok {before rest : List Child} :
    reduceChildren room slot (before ++ rest) = .ok (parts, next) ↔
      ∃ firsts middle others, reduceChildren room slot before = .ok (firsts, middle) ∧
        reduceChildren room middle rest = .ok (others, next) ∧ parts = firsts ++ others := by
  induction before generalizing slot parts with
  | nil =>
      constructor
      · intro h
        exact ⟨[], slot, parts, rfl, h, rfl⟩
      · rintro ⟨firsts, middle, others, hbefore, hrest, rfl⟩
        cases hbefore
        exact hrest
  | cons child before ih =>
      simp only [List.cons_append, reduceChildren_cons_eq_ok, ih]
      constructor
      · rintro ⟨part, middle, _, hchild, ⟨firsts, m, others, hbefore, hrest, rfl⟩, rfl⟩
        exact ⟨part.kept ++ firsts, m, others, ⟨part, middle, firsts, hchild, hbefore, rfl⟩, hrest,
          (List.append_assoc _ _ _).symm⟩
      · rintro ⟨_, m, others, ⟨part, middle, firsts, hchild, hbefore, rfl⟩, hrest, rfl⟩
        exact ⟨part, middle, firsts ++ others, hchild, ⟨firsts, m, others, hbefore, hrest, rfl⟩,
          List.append_assoc _ _ _⟩

theorem Numbered.kept {low high : Nat} (h : Numbered low high [part]) :
    Numbered low high part.kept := by
  unfold Part.kept
  split
  · exact ⟨h.le, by simp, by simp, by simp⟩
  · exact h

theorem Part.kept_mapSlots (f : Nat → Nat) (part : Part) :
    (part.mapSlots f).kept = part.kept.map (Part.mapSlots f) := by
  cases part <;> rfl

mutual

/-- The slots that a tree takes increase from the first free one to the next free one. -/
theorem reduceChild_numbered {room slot next : Nat} {child : Child} {part : Part}
    (h : reduceChild room slot child = .ok (part, next)) : Numbered slot next [part] := by
  cases child with
  | token text =>
      cases h
      exact .of_slots_eq_nil (Nat.le_refl _) rfl rfl
  | node tag children span =>
      obtain ⟨below, parts, middle, rfl, hchildren, htag⟩ := reduceChild_node_eq_ok.1 h
      exact numbered_reduceTag htag (reduceChildren_numbered hchildren)

theorem reduceChildren_numbered {room slot next : Nat} {children : List Child} {parts : List Part}
    (h : reduceChildren room slot children = .ok (parts, next)) : Numbered slot next parts := by
  cases children with
  | nil =>
      cases h
      exact .nil slot
  | cons child rest =>
      obtain ⟨part, middle, others, hchild, hrest, rfl⟩ := reduceChildren_cons_eq_ok.1 h
      exact (reduceChild_numbered hchild).kept.append (reduceChildren_numbered hrest)

end

theorem mem_of_mem_kept {part p : Part} (h : p ∈ part.kept) : p = part := by
  unfold Part.kept at h
  split at h
  · cases h
  · exact List.mem_singleton.1 h

section Made

-- Inside a mutual block the linter misses that a variable is used through another theorem.
set_option linter.unusedSectionVars false

variable {P : Part → Prop} (htoken : ∀ text, P (.token text))
  (htag : ∀ {tag : String} {low slot next : Nat} {parts : List Part} {part : Part},
    reduceTag tag slot parts = .ok (part, next) → Numbered low slot parts →
    (∀ p ∈ parts, P p) → P part)
include htoken htag

mutual

/-- What every tag makes of parts that have it, every tree has. -/
theorem forall_of_reduceChild {room slot next : Nat} {child : Child} {part : Part}
    (h : reduceChild room slot child = .ok (part, next)) : P part := by
  cases child with
  | token text =>
      cases h
      exact htoken text
  | node tag children span =>
      obtain ⟨below, parts, middle, rfl, hchildren, hmade⟩ := reduceChild_node_eq_ok.1 h
      exact htag hmade (reduceChildren_numbered hchildren) (forall_of_reduceChildren hchildren)

theorem forall_of_reduceChildren {room slot next : Nat} {children : List Child}
    {parts : List Part} (h : reduceChildren room slot children = .ok (parts, next)) :
    ∀ p ∈ parts, P p := by
  cases children with
  | nil =>
      cases h
      simp
  | cons child rest =>
      obtain ⟨part, middle, others, hchild, hrest, rfl⟩ := reduceChildren_cons_eq_ok.1 h
      refine List.forall_mem_append.2 ⟨fun p hp => ?_, forall_of_reduceChildren hrest⟩
      rw [mem_of_mem_kept hp]
      exact forall_of_reduceChild hchild

end

end Made

/-- The numbering that starts with `target` where another one starts with `source`. -/
def shift (source target : Nat) (slot : Nat) : Nat := slot - source + target

mutual

/-- A tree that reduces from one slot reduces to the same part from any other one, with its slots
shifted, also where there is more room. -/
theorem reduceChild_shift {room room' slot next : Nat} {child : Child} {part : Part}
    (h : reduceChild room slot child = .ok (part, next)) (hroom : room ≤ room') (slot' : Nat) :
    reduceChild room' slot' child =
      .ok (part.mapSlots (shift slot slot'), shift slot slot' next) := by
  cases child with
  | token text =>
      cases h
      simp [reduceChild, Part.mapSlots, shift]
  | node tag children span =>
      obtain ⟨below, parts, middle, rfl, hchildren, htag⟩ := reduceChild_node_eq_ok.1 h
      obtain ⟨below', rfl⟩ : ∃ below', room' = below' + 1 := ⟨room' - 1, by omega⟩
      -- The children are shifted first; what the tag makes of them is shifted with them.
      have hchildren' := reduceChildren_shift hchildren (show below ≤ below' by omega) slot'
      have htag' := reduceTag_mapSlots htag (shift slot slot')
      have hle := (reduceChildren_numbered hchildren).le
      have hle' := le_of_reduceTag htag
      have hnext : shift slot slot' middle + (next - middle) = shift slot slot' next := by
        simp only [shift]
        omega
      rw [hnext] at htag'
      exact reduceChild_node_eq_ok.2 ⟨below', _, _, rfl, hchildren', htag'⟩

theorem reduceChildren_shift {room room' slot next : Nat} {children : List Child}
    {parts : List Part} (h : reduceChildren room slot children = .ok (parts, next))
    (hroom : room ≤ room') (slot' : Nat) :
    reduceChildren room' slot' children =
      .ok (parts.map (Part.mapSlots (shift slot slot')), shift slot slot' next) := by
  cases children with
  | nil =>
      cases h
      simp [reduceChildren, shift]
  | cons child rest =>
      obtain ⟨part, middle, others, hchild, hrest, rfl⟩ := reduceChildren_cons_eq_ok.1 h
      have hchild' := reduceChild_shift hchild hroom slot'
      have hrest' := reduceChildren_shift hrest hroom (shift slot slot' middle)
      have hle := (reduceChild_numbered hchild).le
      have hothers := reduceChildren_numbered hrest
      -- Above `middle` both ways of counting agree.
      have hagree : ∀ x, middle ≤ x → x ≤ next →
          shift middle (shift slot slot' middle) x = shift slot slot' x := fun x hx _ => by
        simp only [shift]
        omega
      rw [hothers.map_mapSlots_congr hagree, hagree next hothers.le (Nat.le_refl _)] at hrest'
      refine reduceChildren_cons_eq_ok.2 ⟨_, _, _, hchild', hrest', ?_⟩
      rw [List.map_append, Part.kept_mapSlots]

end

/-- A tree builds if it reduces to a schema. -/
theorem Schema.ofTree_eq_ok {tree : Node} {schema : Schema} :
    Schema.ofTree tree = .ok schema ↔
      ∃ next, reduceChild maxDepth 0 tree.toChild = .ok (.schema schema, next) := by
  simp only [Schema.ofTree, bind_eq_ok, Prod.exists]
  constructor
  · rintro ⟨part, next, hpart, h⟩
    cases part with
    | schema s =>
        rw [← pure_eq_ok.1 h]
        exact ⟨next, hpart⟩
    | _ => cases raiseAt_eq_ok.1 h
  · rintro ⟨next, hpart⟩
    exact ⟨.schema schema, next, hpart, rfl⟩

end Trees

end CsvSchema
