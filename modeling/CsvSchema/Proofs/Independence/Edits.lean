import Mathlib.Data.List.Forall2
import CsvSchema.Proofs.Slots.Nodes

/-!
# Editing the rule of a column

Two parse trees that differ in the rule of one column only stand for schemas that are the same up
to that rule and to the numbers of slots: `alike_of_sameExceptRule`.  The edited rule takes the
slots of a gap, which the slots of the other columns stay out of; only its width depends on the
edit.
-/

namespace CsvSchema

open List (Forall₂)
open Fallible

/-- The children with which the definition of a column begins declare its name. -/
def DeclaresColumn (name : String) (children : List Child) : Prop :=
  ∃ room slot raw next, reduceChildren room slot children = .ok ([.token raw], next) ∧
    Text.declaredName raw = name

/-- Two trees differ only below the definition of the column `name`, behind its name: that is where
the rule of the column stands. -/
inductive SameExceptRule (name : String) : Child → Child → Prop
  | column {before rest₁ rest₂ : List Child} {span₁ span₂ : Option Span}
      (h : DeclaresColumn name before) :
      SameExceptRule name (.node "column_definition" (before ++ rest₁) span₁)
        (.node "column_definition" (before ++ rest₂) span₂)
  | within {tag : String} (before after : List Child) {child₁ child₂ : Child}
      {span₁ span₂ : Option Span} (h : SameExceptRule name child₁ child₂) :
      SameExceptRule name (.node tag (before ++ child₁ :: after) span₁)
        (.node tag (before ++ child₂ :: after) span₂)

/-- The numbering that leaves out `width` numbers from `start` on. -/
def gap (start width : Nat) (slot : Nat) : Nat := if slot < start then slot else slot + width

/-- The numbering that closes a gap. -/
def closeGap (start width : Nat) (slot : Nat) : Nat := if slot < start then slot else slot - width

theorem closeGap_gap (start width slot : Nat) :
    closeGap start width (gap start width slot) = slot := by
  unfold closeGap gap
  by_cases h : slot < start
  · rw [if_pos h, if_pos h]
  · rw [if_neg h, if_neg (by omega), Nat.add_sub_cancel]

/-- Two columns are the same up to their slots, or they are the edited column and have their slots
where no other column can have one. -/
inductive ColumnAlike (name : String) (f₁ f₂ : Nat → Nat) :
    ColumnDefinition → ColumnDefinition → Prop
  | renamed (column : ColumnDefinition) :
      ColumnAlike name f₁ f₂ (column.mapSlots f₁) (column.mapSlots f₂)
  | edited {rule₁ rule₂ : ColumnRule} (h₁ : ∀ x, f₁ x ∉ rule₁.slots)
      (h₂ : ∀ x, f₂ x ∉ rule₂.slots) : ColumnAlike name f₁ f₂ ⟨name, rule₁⟩ ⟨name, rule₂⟩

/-- Two schemas are the same up to the edited column and the numbers of slots. -/
structure SchemaAlike (name : String) (f₁ f₂ : Nat → Nat) (schema₁ schema₂ : Schema) : Prop where
  settings : schema₁.settings = schema₂.settings
  columns : Forall₂ (ColumnAlike name f₁ f₂) schema₁.columns schema₂.columns

/-- Two parts are the same up to the edited column and the numbers of slots. -/
def PartAlike (name : String) (f₁ f₂ : Nat → Nat) : Part → Part → Prop
  | .column column₁, .column column₂ => ColumnAlike name f₁ f₂ column₁ column₂
  | .body columns₁ _, .body columns₂ _ => Forall₂ (ColumnAlike name f₁ f₂) columns₁ columns₂
  | .schema schema₁, .schema schema₂ => SchemaAlike name f₁ f₂ schema₁ schema₂
  | part₁, part₂ => ∃ part : Part, part₁ = part.mapSlots f₁ ∧ part₂ = part.mapSlots f₂

section Alike

variable {name : String} {f₁ f₂ : Nat → Nat}

theorem columnAlike_of_fixed {column : ColumnDefinition} (h₁ : ∀ x ∈ column.rule.slots, f₁ x = x)
    (h₂ : ∀ x ∈ column.rule.slots, f₂ x = x) : ColumnAlike name f₁ f₂ column column := by
  have hsame : ColumnAlike name f₁ f₂ (column.mapSlots f₁) (column.mapSlots f₂) :=
    .renamed column
  rwa [column.mapSlots_congr (g := id) h₁, column.mapSlots_congr (g := id) h₂,
    column.mapSlots_id] at hsame

namespace PartAlike

/-- A part with different slots. -/
theorem renamed (part : Part) : PartAlike name f₁ f₂ (part.mapSlots f₁) (part.mapSlots f₂) := by
  have hcolumns : ∀ columns : List ColumnDefinition, Forall₂ (ColumnAlike name f₁ f₂)
      (columns.map (·.mapSlots f₁)) (columns.map (·.mapSlots f₂)) := by
    intro columns
    rw [List.forall₂_map_left_iff, List.forall₂_map_right_iff, List.forall₂_same]
    exact fun column _ => ColumnAlike.renamed column
  cases part with
  | column column => exact ColumnAlike.renamed column
  | body columns total => exact hcolumns columns
  | schema schema => exact ⟨rfl, hcolumns schema.columns⟩
  | _ => exact ⟨_, rfl, rfl⟩

/-- A part whose slots both renamings keep, whatever it knows of the number of slots. -/
theorem of_fixed {part : Part} (h₁ : ∀ x ∈ part.slots, f₁ x = x) (h₂ : ∀ x ∈ part.slots, f₂ x = x) :
    PartAlike name f₁ f₂ part part := by
  have hcolumns : ∀ columns : List ColumnDefinition, columnSlots columns = part.slots →
      Forall₂ (ColumnAlike name f₁ f₂) columns columns := by
    intro columns hslots
    rw [List.forall₂_same]
    intro column hcolumn
    have hmem : ∀ x ∈ column.rule.slots, x ∈ part.slots := fun x hx => by
      rw [← hslots]
      exact List.mem_flatMap.2 ⟨column, hcolumn, hx⟩
    exact columnAlike_of_fixed (fun x hx => h₁ x (hmem x hx)) fun x hx => h₂ x (hmem x hx)
  -- A part that knows no number of slots is what either renaming makes of it.
  cases htotal : part.total? with
  | none =>
      have hsame : PartAlike name f₁ f₂ (part.mapSlots f₁) (part.mapSlots f₂) := renamed part
      rwa [part.mapSlots_congr (g := id) h₁ (by simp [htotal]),
        part.mapSlots_congr (g := id) h₂ (by simp [htotal]), part.mapSlots_id] at hsame
  | some total =>
      cases part with
      | body columns total => exact hcolumns columns rfl
      | schema schema => exact ⟨rfl, hcolumns schema.columns rfl⟩
      | _ => cases htotal

/-- Parts of one column are alike only if they are the same up to their slots. -/
theorem exists_of_inner {part₁ part₂ : Part} (h : PartAlike name f₁ f₂ part₁ part₂)
    (hinner : part₁.isDocument = false) :
    ∃ part : Part, part₁ = part.mapSlots f₁ ∧ part₂ = part.mapSlots f₂ := by
  cases part₁ <;> first | exact h | simp [Part.isDocument] at hinner

theorem exists_of_forall_inner {parts₁ parts₂ : List Part}
    (h : Forall₂ (PartAlike name f₁ f₂) parts₁ parts₂)
    (hinner : ∀ p ∈ parts₁, p.isDocument = false) :
    ∃ parts : List Part, parts₁ = parts.map (Part.mapSlots f₁) ∧
      parts₂ = parts.map (Part.mapSlots f₂) := by
  induction h with
  | nil => exact ⟨[], rfl, rfl⟩
  | cons hpart _ ih =>
      obtain ⟨hfirst, hrest⟩ := List.forall_mem_cons.1 hinner
      obtain ⟨part, rfl, rfl⟩ := hpart.exists_of_inner hfirst
      obtain ⟨parts, rfl, rfl⟩ := ih hrest
      exact ⟨part :: parts, rfl, rfl⟩

theorem isComment_eq {part₁ part₂ : Part} (h : PartAlike name f₁ f₂ part₁ part₂) :
    part₁.isComment = part₂.isComment := by
  unfold PartAlike at h
  split at h
  · rfl
  · rfl
  · rfl
  · obtain ⟨part, rfl, rfl⟩ := h
    cases part <;> rfl

theorem kept {part₁ part₂ : Part} (h : PartAlike name f₁ f₂ part₁ part₂) :
    Forall₂ (PartAlike name f₁ f₂) part₁.kept part₂.kept := by
  unfold Part.kept
  rw [h.isComment_eq]
  split
  · exact .nil
  · exact .cons h .nil

end PartAlike

section Reduction

variable {slot : Nat} {parts₁ parts₂ : List Part} {part₁ part₂ : Part}

theorem reduceBody_alike {total₁ total₂ : Nat} (h : Forall₂ (PartAlike name f₁ f₂) parts₁ parts₂)
    (h₁ : reduceBody total₁ parts₁ = .ok part₁) (h₂ : reduceBody total₂ parts₂ = .ok part₂) :
    PartAlike name f₁ f₂ part₁ part₂ := by
  obtain ⟨columns₁, hcolumns₁, hpart₁⟩ := bind_eq_ok.1 h₁
  obtain ⟨columns₂, hcolumns₂, hpart₂⟩ := bind_eq_ok.1 h₂
  rw [mapM_asColumn_eq_ok_iff] at hcolumns₁ hcolumns₂
  subst hcolumns₁ hcolumns₂
  rw [List.forall₂_map_left_iff, List.forall₂_map_right_iff] at h
  rw [← pure_eq_ok.1 hpart₁, ← pure_eq_ok.1 hpart₂]
  exact h

theorem reduceSchema_alike {schema₁ schema₂ : Schema}
    (h : Forall₂ (PartAlike name f₁ f₂) parts₁ parts₂) (h₁ : reduceSchema parts₁ = .ok schema₁)
    (h₂ : reduceSchema parts₂ = .ok schema₂) : SchemaAlike name f₁ f₂ schema₁ schema₂ := by
  obtain ⟨rfl, -⟩ := (reduceSchema_eq_ok_iff schema₁).1 h₁
  obtain ⟨rfl, -⟩ := (reduceSchema_eq_ok_iff schema₂).1 h₂
  obtain ⟨hhead, hrest⟩ := List.forall₂_cons.1 h
  obtain ⟨hbody, -⟩ := List.forall₂_cons.1 hrest
  obtain ⟨head, hhead₁, hhead₂⟩ := hhead.exists_of_inner rfl
  cases head <;> simp only [Part.mapSlots, reduceCtorEq, Part.prolog.injEq] at hhead₁
  simp only [Part.mapSlots, Part.prolog.injEq] at hhead₂
  exact ⟨hhead₁.2.trans hhead₂.2.symm, hbody⟩

theorem reduceStart_alike {schema₁ schema₂ : Schema}
    (h : Forall₂ (PartAlike name f₁ f₂) parts₁ parts₂) (h₁ : reduceStart parts₁ = .ok schema₁)
    (h₂ : reduceStart parts₂ = .ok schema₂) : SchemaAlike name f₁ f₂ schema₁ schema₂ := by
  obtain rfl := (reduceStart_eq_ok_iff schema₁).1 h₁
  obtain rfl := (reduceStart_eq_ok_iff schema₂).1 h₂
  exact (List.forall₂_cons.1 h).1

theorem reduceBodyPart_alike (h : Forall₂ (PartAlike name f₁ f₂) parts₁ parts₂)
    (h₁ : reduceBodyPart parts₁ = .ok part₁) (h₂ : reduceBodyPart parts₂ = .ok part₂) :
    PartAlike name f₁ f₂ part₁ part₂ := by
  cases h with
  | nil =>
      cases h₁
      cases h₂
      exact .renamed .comment
  | cons hpart hrest =>
      cases hrest with
      | nil =>
          cases h₁
          cases h₂
          exact hpart
      | cons _ _ => cases h₁

/-- Nodes of one kind make alike parts of alike parts. -/
theorem NodeKind.reduce_alike {kind : NodeKind} {g : Nat → Nat} (hg : ∀ x, g (f₁ x) = x)
    (h : Forall₂ (PartAlike name f₁ f₂) parts₁ parts₂)
    (h₁ : kind.reduce (f₁ slot) parts₁ = .ok part₁)
    (h₂ : kind.reduce (f₂ slot) parts₂ = .ok part₂) : PartAlike name f₁ f₂ part₁ part₂ := by
  by_cases hcomment : kind = .comment
  · subst hcomment
    cases h₁
    cases h₂
    exact .renamed .comment
  cases hdocument : kind.ofDocument with
  | true =>
      cases kind with
      | start =>
          obtain ⟨schema₁, hschema₁, rfl⟩ := map_eq_ok.1 h₁
          obtain ⟨schema₂, hschema₂, rfl⟩ := map_eq_ok.1 h₂
          exact reduceStart_alike h hschema₁ hschema₂
      | schema =>
          obtain ⟨schema₁, hschema₁, rfl⟩ := map_eq_ok.1 h₁
          obtain ⟨schema₂, hschema₂, rfl⟩ := map_eq_ok.1 h₂
          exact reduceSchema_alike h hschema₁ hschema₂
      | body => exact reduceBody_alike h h₁ h₂
      | bodyPart => exact reduceBodyPart_alike h h₁ h₂
      | _ => cases hdocument
  | false =>
      have hrespects := NodeKind.respects_reduce h₁ hcomment
      obtain ⟨parts, rfl, rfl⟩ := PartAlike.exists_of_forall_inner h (hrespects.inner hdocument)
      -- With the slots of the first side taken back, both sides are renamings of one node.
      have hbase := hrespects.natural g
      have hparts : (parts.map (Part.mapSlots f₁)).map (Part.mapSlots g) = parts := by
        rw [List.map_map]
        conv => rhs; rw [← List.map_id parts]
        refine List.map_congr_left fun part _ => ?_
        rw [Function.comp_apply, Part.mapSlots_mapSlots]
        simp only [hg]
        exact part.mapSlots_id
      rw [hparts, hg] at hbase
      have hrespects' := NodeKind.respects_reduce hbase hcomment
      rw [hrespects'.natural f₁] at h₁
      rw [hrespects'.natural f₂] at h₂
      rw [← Except.ok.inj h₁, ← Except.ok.inj h₂]
      exact .renamed _

/-- A tag makes alike parts of alike parts, and gives out as many slots on both sides. -/
theorem reduceTag_alike {tag : String} {start width₁ width₂ next₁ next₂ : Nat}
    (hstart : start ≤ slot)
    (h : Forall₂ (PartAlike name (gap start width₁) (gap start width₂)) parts₁ parts₂)
    (h₁ : reduceTag tag (gap start width₁ slot) parts₁ = .ok (part₁, next₁))
    (h₂ : reduceTag tag (gap start width₂ slot) parts₂ = .ok (part₂, next₂)) :
    PartAlike name (gap start width₁) (gap start width₂) part₁ part₂ ∧
      ∃ next, start ≤ next ∧ next₁ = gap start width₁ next ∧ next₂ = gap start width₂ next := by
  unfold reduceTag at h₁ h₂
  cases hkind : NodeKind.ofTag? tag with
  | some kind =>
      simp only [hkind] at h₁ h₂
      obtain ⟨_, hpart₁, heq₁⟩ := map_eq_ok.1 h₁
      obtain ⟨_, hpart₂, heq₂⟩ := map_eq_ok.1 h₂
      obtain ⟨rfl, rfl⟩ := Prod.mk.inj heq₁
      obtain ⟨rfl, rfl⟩ := Prod.mk.inj heq₂
      -- A node starts to count behind the gap, so both sides count on alike.
      refine ⟨NodeKind.reduce_alike (closeGap_gap start width₁) h hpart₁ hpart₂, slot + kind.slots,
        by omega, ?_, ?_⟩
      · rw [gap, gap, if_neg (by omega), if_neg (by omega)]
        omega
      · rw [gap, gap, if_neg (by omega), if_neg (by omega)]
        omega
  | none =>
      simp only [hkind] at h₁ h₂
      split at h₁
      · cases h₁
      · rename_i hdirective
        rw [if_neg hdirective] at h₂
        cases h with
        | nil => cases h₁
        | cons hpart hrest =>
            cases hrest with
            | nil =>
                cases h₁
                cases h₂
                exact ⟨hpart, slot, hstart, rfl, rfl⟩
            | cons _ _ => cases h₁

end Reduction

end Alike

section Trees

variable {name : String}

/-- Wherever the children that declare a column are reduced, they are its name. -/
theorem DeclaresColumn.eq_token {before : List Child} (h : DeclaresColumn name before)
    {room slot next : Nat} {parts : List Part}
    (hparts : reduceChildren room slot before = .ok (parts, next)) :
    ∃ raw, parts = [.token raw] ∧ Text.declaredName raw = name := by
  obtain ⟨room', slot', raw, next', hraw, hname⟩ := h
  have hraw' := reduceChildren_shift hraw (Nat.le_max_left room' room) slot
  have hparts' := reduceChildren_shift hparts (Nat.le_max_right room' room) slot
  have heq := congrArg Prod.fst (Except.ok.inj (hparts'.symm.trans hraw'))
  obtain ⟨part, rest, rfl, hpart, hrest⟩ := List.map_eq_cons_iff.1 heq
  rw [List.map_eq_nil_iff.1 hrest]
  cases part <;> simp only [Part.mapSlots, reduceCtorEq] at hpart
  cases hpart
  exact ⟨raw, rfl, hname⟩

/-- A column definition reduces to a column with the declared name. -/
theorem eq_column_of_reduceChild {before rest : List Child} {span : Option Span}
    (hname : DeclaresColumn name before) {room slot next : Nat} {part : Part}
    (h : reduceChild room slot (.node "column_definition" (before ++ rest) span) =
      .ok (part, next)) :
    ∃ rule, part = .column ⟨name, rule⟩ ∧ ∀ x ∈ rule.slots, slot ≤ x ∧ x < next := by
  have hnumbered := reduceChild_numbered h
  obtain ⟨below, parts, middle, -, hchildren, htag⟩ := reduceChild_node_eq_ok.1 h
  obtain ⟨firsts, m, others, hbefore, -, rfl⟩ := reduceChildren_append_eq_ok.1 hchildren
  obtain ⟨raw, rfl, hraw⟩ := hname.eq_token hbefore
  have hkind : NodeKind.ofTag? "column_definition" = some .column := rfl
  simp only [reduceTag, hkind] at htag
  obtain ⟨_, hreduced, heq⟩ := map_eq_ok.1 htag
  obtain ⟨rfl, -⟩ := Prod.mk.inj heq
  obtain ⟨⟨declared, rule⟩, hcolumn, rfl⟩ := map_eq_ok.1 hreduced
  obtain ⟨raw', hparts, hraw', -⟩ := (reduceColumn_eq_ok_iff _).1 hcolumn
  obtain ⟨hsame, -⟩ := List.cons.inj hparts
  have hdeclared : declared = name := by
    rw [← hraw, Part.token.inj hsame]
    exact hraw'.symm
  subst hdeclared
  exact ⟨rule, rfl, fun x hx => hnumbered.bounds x (by simpa [Part.slots] using hx)⟩

theorem shift_gap {start width n x : Nat} (hn : start ≤ n) (hx : n ≤ x) :
    shift n (gap start width n) x = gap start width x := by
  rw [shift, gap, gap, if_neg (by omega), if_neg (by omega)]
  omega

/-- Behind the edit the same children reduce to the same parts, with slots above the gap. -/
theorem reduceChildren_gap (name : String) {room start width₁ width₂ n k₁ k₂ : Nat}
    {children : List Child} {parts₁ parts₂ : List Part} (hn : start ≤ n)
    (h₁ : reduceChildren room (gap start width₁ n) children = .ok (parts₁, k₁))
    (h₂ : reduceChildren room (gap start width₂ n) children = .ok (parts₂, k₂)) :
    Forall₂ (PartAlike name (gap start width₁) (gap start width₂)) parts₁ parts₂ ∧
      ∃ k, start ≤ k ∧ k₁ = gap start width₁ k ∧ k₂ = gap start width₂ k := by
  -- The children are reduced once more from where the gap does not show.
  have hbase := reduceChildren_shift h₁ (Nat.le_refl room) n
  generalize parts₁.map _ = parts at hbase
  generalize shift (gap start width₁ n) n k₁ = k at hbase
  have hnumbered := reduceChildren_numbered hbase
  have hgap : ∀ width, reduceChildren room (gap start width n) children =
      .ok (parts.map (Part.mapSlots (gap start width)), gap start width k) := by
    intro width
    have hshift := reduceChildren_shift hbase (Nat.le_refl room) (gap start width n)
    rwa [hnumbered.map_mapSlots_congr (fun x hx _ => shift_gap hn hx),
      shift_gap hn hnumbered.le] at hshift
  rw [hgap] at h₁ h₂
  cases h₁
  cases h₂
  refine ⟨?_, k, Nat.le_trans hn hnumbered.le, rfl, rfl⟩
  rw [List.forall₂_map_left_iff, List.forall₂_map_right_iff, List.forall₂_same]
  exact fun part _ => .renamed part

/-- Before the edit the parts are the same, with slots below the gap. -/
theorem forall₂_alike_of_numbered {low m start width₁ width₂ : Nat} {parts : List Part}
    (h : Numbered low m parts) (hm : m ≤ start) :
    Forall₂ (PartAlike name (gap start width₁) (gap start width₂)) parts parts := by
  have hfixed : ∀ width, ∀ part ∈ parts, ∀ x ∈ part.slots, gap start width x = x := by
    intro width part hpart x hx
    have hbounds := h.bounds x (List.mem_flatMap.2 ⟨part, hpart, hx⟩)
    rw [gap, if_pos (by omega)]
  rw [List.forall₂_same]
  exact fun part hpart => .of_fixed (hfixed width₁ part hpart) (hfixed width₂ part hpart)

/-- Trees that differ in the rule of one column reduce to alike parts, if they do reduce.  The gap
starts where the edited column does, and the numbers before the trees stay below it. -/
theorem alike_of_sameExceptRule {child₁ child₂ : Child} (h : SameExceptRule name child₁ child₂)
    {room slot next₁ next₂ : Nat} {part₁ part₂ : Part}
    (h₁ : reduceChild room slot child₁ = .ok (part₁, next₁))
    (h₂ : reduceChild room slot child₂ = .ok (part₂, next₂)) :
    ∃ start width₁ width₂, slot ≤ start ∧
      PartAlike name (gap start width₁) (gap start width₂) part₁ part₂ ∧
      ∃ next, start ≤ next ∧ next₁ = gap start width₁ next ∧ next₂ = gap start width₂ next := by
  induction h generalizing room slot part₁ part₂ next₁ next₂ with
  | column hname =>
      obtain ⟨rule₁, rfl, hslots₁⟩ := eq_column_of_reduceChild hname h₁
      obtain ⟨rule₂, rfl, hslots₂⟩ := eq_column_of_reduceChild hname h₂
      have hle₁ := (reduceChild_numbered h₁).le
      have hle₂ := (reduceChild_numbered h₂).le
      -- The gap is what the edited column takes, from the slot where it begins.
      refine ⟨slot, next₁ - slot, next₂ - slot, Nat.le_refl _, ColumnAlike.edited ?_ ?_, slot,
        Nat.le_refl _, ?_, ?_⟩
      · intro x hx
        have hbounds := hslots₁ _ hx
        unfold gap at hbounds
        split at hbounds <;> omega
      · intro x hx
        have hbounds := hslots₂ _ hx
        unfold gap at hbounds
        split at hbounds <;> omega
      · rw [gap, if_neg (Nat.lt_irrefl _)]
        omega
      · rw [gap, if_neg (Nat.lt_irrefl _)]
        omega
  | @within tag before after child₁ child₂ _ _ _ ih =>
      obtain ⟨below, parts₁, middle₁, rfl, hchildren₁, htag₁⟩ := reduceChild_node_eq_ok.1 h₁
      obtain ⟨below', parts₂, middle₂, hroom, hchildren₂, htag₂⟩ := reduceChild_node_eq_ok.1 h₂
      obtain rfl := Nat.succ.inj hroom
      -- Before the edit the runs of the reduction are the same, behind it they differ by the gap.
      obtain ⟨firsts, m, _, hbefore, hrest₁, rfl⟩ := reduceChildren_append_eq_ok.1 hchildren₁
      obtain ⟨firsts', m', _, hbefore', hrest₂, rfl⟩ := reduceChildren_append_eq_ok.1 hchildren₂
      cases hbefore.symm.trans hbefore'
      obtain ⟨edited₁, n₁, others₁, hedited₁, hafter₁, rfl⟩ := reduceChildren_cons_eq_ok.1 hrest₁
      obtain ⟨edited₂, n₂, others₂, hedited₂, hafter₂, rfl⟩ := reduceChildren_cons_eq_ok.1 hrest₂
      obtain ⟨start, width₁, width₂, hstart, hedited, n, hn, rfl, rfl⟩ := ih hedited₁ hedited₂
      obtain ⟨hafter, k, hk, rfl, rfl⟩ := reduceChildren_gap name hn hafter₁ hafter₂
      have hnumbered := reduceChildren_numbered hbefore
      have hparts := List.rel_append (forall₂_alike_of_numbered hnumbered hstart)
        (List.rel_append hedited.kept hafter)
      exact ⟨start, width₁, width₂, Nat.le_trans hnumbered.le hstart,
        reduceTag_alike hk hparts htag₁ htag₂⟩

/-- The schemas of two trees that differ in the rule of one column are the same up to that column
and the numbers of slots. -/
theorem schemaAlike_of_sameExceptRule {tree₁ tree₂ : Node} {schema₁ schema₂ : Schema}
    (h : SameExceptRule name tree₁.toChild tree₂.toChild) (h₁ : Schema.ofTree tree₁ = .ok schema₁)
    (h₂ : Schema.ofTree tree₂ = .ok schema₂) :
    ∃ start width₁ width₂,
      SchemaAlike name (gap start width₁) (gap start width₂) schema₁ schema₂ := by
  obtain ⟨next₁, hchild₁⟩ := Schema.ofTree_eq_ok.1 h₁
  obtain ⟨next₂, hchild₂⟩ := Schema.ofTree_eq_ok.1 h₂
  obtain ⟨start, width₁, width₂, -, hschemas, -⟩ := alike_of_sameExceptRule h hchild₁ hchild₂
  exact ⟨start, width₁, width₂, hschemas⟩

end Trees

end CsvSchema
