import CsvSchema.Proofs.Slots.Renaming
import CsvSchema.Reduction.Argument
import CsvSchema.Reduction.Basic

/-!
# Slots of parts

The slots of a part are those of the checks in it.  The columns of a schema also know how many slots
have been given out, and a renaming acts on that number as on the slots.

The readers of arguments accept parts: an operand, a token or a directive holds no check, and a
reader of checks commutes with renaming.
-/

namespace CsvSchema

namespace ColumnRule

/-- The slots of a rule. -/
def slots (rule : ColumnRule) : List Nat := checkSlots rule.checks

/-- A rule with other slots. -/
def mapSlots (f : Nat → Nat) (rule : ColumnRule) : ColumnRule :=
  { rule with checks := mapCheckSlots f rule.checks }

end ColumnRule

/-- A column with other slots. -/
def ColumnDefinition.mapSlots (f : Nat → Nat) (column : ColumnDefinition) : ColumnDefinition :=
  { column with rule := column.rule.mapSlots f }

/-- The slots of some columns. -/
def columnSlots (columns : List ColumnDefinition) : List Nat := columns.flatMap (·.rule.slots)

/-- A schema with other slots. -/
def Schema.mapSlots (f : Nat → Nat) (schema : Schema) : Schema :=
  { schema with columns := schema.columns.map (·.mapSlots f), slots := f schema.slots }

/-- The slots of a part. -/
def Part.slots : Part → List Nat
  | .body columns _ => columnSlots columns
  | .column c => c.rule.slots
  | .rule r => r.slots
  | .check c => c.slots
  | .clause checks => checkSlots checks
  | .switchCase c => c.slots
  | .schema s => columnSlots s.columns
  | _ => []

/-- How many slots have been given out, as far as a part knows. -/
def Part.total? : Part → Option Nat
  | .body _ total => some total
  | .schema s => some s.slots
  | _ => none

/-- A part with other slots. -/
def Part.mapSlots (f : Nat → Nat) : Part → Part
  | .body columns total => .body (columns.map (·.mapSlots f)) (f total)
  | .column c => .column (c.mapSlots f)
  | .rule r => .rule (r.mapSlots f)
  | .check c => .check (c.mapSlots f)
  | .clause checks => .clause (mapCheckSlots f checks)
  | .switchCase c => .switchCase (c.mapSlots f)
  | .schema s => .schema (s.mapSlots f)
  | part => part

/-- Whether a part belongs to the document as a whole rather than to one column. -/
def Part.isDocument : Part → Bool
  | .body _ _ | .column _ | .schema _ => true
  | _ => false

/-- Whether a part can hold no check. -/
def Part.isPlain : Part → Bool
  | .body _ _ | .column _ | .rule _ | .check _ | .clause _ | .switchCase _ | .schema _ => false
  | _ => true

namespace Part

@[simp] theorem slots_check (check : Check) : (Part.check check).slots = check.slots := rfl

@[simp] theorem slots_switchCase (switchCase : SwitchCase) :
    (Part.switchCase switchCase).slots = switchCase.slots := rfl

@[simp] theorem mapSlots_check (f : Nat → Nat) (check : Check) :
    (Part.check check).mapSlots f = .check (check.mapSlots f) := rfl

@[simp] theorem isDocument_check (check : Check) : (Part.check check).isDocument = false := rfl

end Part

section Congruence

variable {f g : Nat → Nat}

theorem ColumnRule.mapSlots_congr (rule : ColumnRule) (h : ∀ slot ∈ rule.slots, f slot = g slot) :
    rule.mapSlots f = rule.mapSlots g := by
  simp only [mapSlots, mapCheckSlots_congr rule.checks h]

theorem ColumnDefinition.mapSlots_congr (column : ColumnDefinition)
    (h : ∀ slot ∈ column.rule.slots, f slot = g slot) : column.mapSlots f = column.mapSlots g := by
  simp only [mapSlots, column.rule.mapSlots_congr h]

theorem map_mapSlots_congr (columns : List ColumnDefinition)
    (h : ∀ slot ∈ columnSlots columns, f slot = g slot) :
    columns.map (·.mapSlots f) = columns.map (·.mapSlots g) := by
  apply List.map_congr_left
  intro column hcolumn
  exact column.mapSlots_congr fun slot hslot => h slot (List.mem_flatMap.2 ⟨column, hcolumn, hslot⟩)

/-- A renaming acts on a part by what it does to the slots of the part and to the number of slots
that the part knows. -/
theorem Part.mapSlots_congr (part : Part) (h : ∀ slot ∈ part.slots, f slot = g slot)
    (htotal : ∀ total ∈ part.total?, f total = g total) : part.mapSlots f = part.mapSlots g := by
  cases part with
  | body columns total =>
      simp only [mapSlots, map_mapSlots_congr columns h, htotal total rfl]
  | column column => simp only [mapSlots, column.mapSlots_congr h]
  | rule rule => simp only [mapSlots, rule.mapSlots_congr h]
  | check check => simp only [mapSlots, check.mapSlots_congr h]
  | clause checks => simp only [mapSlots, mapCheckSlots_congr checks h]
  | switchCase switchCase => simp only [mapSlots, switchCase.mapSlots_congr h]
  | schema schema =>
      simp only [mapSlots, Schema.mapSlots, map_mapSlots_congr schema.columns h,
        htotal schema.slots rfl]
  | _ => rfl

end Congruence

theorem ColumnDefinition.mapSlots_id (column : ColumnDefinition) : column.mapSlots id = column := by
  simp only [mapSlots, ColumnRule.mapSlots, mapCheckSlots_id]

theorem map_mapSlots_id (columns : List ColumnDefinition) :
    columns.map (·.mapSlots id) = columns := by
  simp only [ColumnDefinition.mapSlots_id, List.map_id_fun']
  rfl

theorem Part.mapSlots_id (part : Part) : part.mapSlots id = part := by
  cases part with
  | body columns total => simp only [mapSlots, map_mapSlots_id, id_eq]
  | column column => simp only [mapSlots, column.mapSlots_id]
  | rule rule => simp only [mapSlots, ColumnRule.mapSlots, mapCheckSlots_id]
  | check check => simp only [mapSlots, check.mapSlots_id]
  | clause checks => simp only [mapSlots, mapCheckSlots_id]
  | switchCase switchCase => simp only [mapSlots, switchCase.mapSlots_id]
  | schema schema => simp only [mapSlots, Schema.mapSlots, map_mapSlots_id, id_eq]
  | _ => rfl

section Composition

variable (f g : Nat → Nat)

theorem ColumnDefinition.mapSlots_mapSlots (column : ColumnDefinition) :
    (column.mapSlots f).mapSlots g = column.mapSlots fun slot => g (f slot) := by
  simp only [mapSlots, ColumnRule.mapSlots, mapCheckSlots_mapCheckSlots]

theorem map_mapSlots_map_mapSlots (columns : List ColumnDefinition) :
    (columns.map (·.mapSlots f)).map (·.mapSlots g) =
      columns.map (·.mapSlots fun slot => g (f slot)) := by
  rw [List.map_map]
  exact List.map_congr_left fun column _ => column.mapSlots_mapSlots f g

theorem Part.mapSlots_mapSlots (part : Part) :
    (part.mapSlots f).mapSlots g = part.mapSlots fun slot => g (f slot) := by
  cases part with
  | body columns total => simp only [mapSlots, map_mapSlots_map_mapSlots]
  | column column => simp only [mapSlots, column.mapSlots_mapSlots]
  | rule rule => simp only [mapSlots, ColumnRule.mapSlots, mapCheckSlots_mapCheckSlots]
  | check check => simp only [mapSlots, check.mapSlots_mapSlots]
  | clause checks => simp only [mapSlots, mapCheckSlots_mapCheckSlots]
  | switchCase switchCase => simp only [mapSlots, switchCase.mapSlots_mapSlots]
  | schema schema => simp only [mapSlots, Schema.mapSlots, map_mapSlots_map_mapSlots]
  | _ => rfl

end Composition

namespace Part

theorem mapSlots_of_slots_eq_nil (f : Nat → Nat) {part : Part} (h : part.slots = [])
    (htotal : part.total? = none) : part.mapSlots f = part := by
  rw [part.mapSlots_congr (g := id) (by simp [h]) (by simp [htotal]), mapSlots_id]

theorem slots_of_isPlain {part : Part} (h : part.isPlain = true) : part.slots = [] := by
  cases part <;> first | rfl | simp [isPlain] at h

theorem total?_of_isPlain {part : Part} (h : part.isPlain = true) : part.total? = none := by
  cases part <;> first | rfl | simp [isPlain] at h

theorem isDocument_of_isPlain {part : Part} (h : part.isPlain = true) :
    part.isDocument = false := by
  cases part <;> first | rfl | simp [isPlain] at h

theorem mapSlots_of_isPlain (f : Nat → Nat) {part : Part} (h : part.isPlain = true) :
    part.mapSlots f = part :=
  mapSlots_of_slots_eq_nil f (slots_of_isPlain h) (total?_of_isPlain h)

end Part

namespace Fallible

variable {ε α β : Type}

@[grind =] theorem bind_eq_ok {action : Except ε α} {next : α → Except ε β} {b : β} :
    (action >>= next) = .ok b ↔ ∃ a, action = .ok a ∧ next a = .ok b := by
  cases action with
  | error e => simp [bind, Except.bind]
  | ok a => simp [bind, Except.bind]

theorem bind_eq_error {action : Except ε α} {next : α → Except ε β} {e : ε} :
    (action >>= next) = .error e ↔
      action = .error e ∨ ∃ a, action = .ok a ∧ next a = .error e := by
  cases action with
  | error e' => simp [bind, Except.bind]
  | ok a => simp [bind, Except.bind]

@[grind =] theorem map_eq_ok {f : α → β} {action : Except ε α} {b : β} :
    action.map f = .ok b ↔ ∃ a, action = .ok a ∧ f a = b := by
  cases action with
  | error e => simp [Except.map]
  | ok a => simp [Except.map]

@[grind =] theorem pure_eq_ok {a b : α} : (pure a : Except ε α) = .ok b ↔ a = b := by
  simp [pure, Except.pure]

@[grind =] theorem throw_eq_ok {e : ε} {a : α} : (throw e : Except ε α) = .ok a ↔ False := by
  simp [throw, throwThe, MonadExceptOf.throw]

/-- A list is read element by element. -/
theorem mapM_eq_ok_iff {read : α → Except ε β} {make : β → α}
    (h : ∀ a b, read a = .ok b ↔ a = make b) {as : List α} {bs : List β} :
    as.mapM read = .ok bs ↔ as = bs.map make := by
  induction as generalizing bs with
  | nil => cases bs <;> simp [pure, Except.pure]
  | cons a as ih =>
      simp only [List.mapM_cons, bind_eq_ok, pure_eq_ok, h, ih]
      constructor
      · rintro ⟨b, rfl, bs, rfl, rfl⟩
        rfl
      · intro heq
        obtain ⟨b, bs, rfl, rfl, rfl⟩ := List.map_eq_cons_iff.1 heq.symm
        exact ⟨b, rfl, bs, rfl, rfl⟩

/-- What a list is read from is accepted element by element. -/
theorem of_mapM_eq_ok {read : α → Except ε β} {p : α → Prop} (h : ∀ a b, read a = .ok b → p a)
    {as : List α} {bs : List β} (hread : as.mapM read = .ok bs) : ∀ a ∈ as, p a := by
  induction as generalizing bs with
  | nil => simp
  | cons a as ih =>
      simp only [List.mapM_cons, bind_eq_ok] at hread
      obtain ⟨b, hb, bs, hbs, -⟩ := hread
      exact List.forall_mem_cons.2 ⟨h a b hb, ih hbs⟩

theorem ne_nil_of_mapM_eq_ok {read : α → Except ε β} {as : List α} {bs : List β}
    (hne : ¬as.isEmpty) (h : as.mapM read = .ok bs) : bs ≠ [] := by
  cases as with
  | nil => exact absurd rfl hne
  | cons a as =>
      simp only [List.mapM_cons, bind_eq_ok, pure_eq_ok] at h
      obtain ⟨b, -, rest, -, rfl⟩ := h
      exact List.cons_ne_nil b rest

end Fallible

namespace Part

section Plain

variable {part : Part}

@[grind →] theorem isPlain_of_asToken {text : String} (h : part.asToken = .ok text) :
    part.isPlain = true := by
  cases part <;> first | rfl | simp [asToken] at h

@[grind →] theorem isPlain_of_asOperand {operand : Operand} (h : part.asOperand = .ok operand) :
    part.isPlain = true := by
  cases part <;> first | rfl | simp [asOperand] at h

@[grind →] theorem isPlain_of_asReference {name : String} (h : part.asReference = .ok name) :
    part.isPlain = true := by
  cases part <;> first | rfl | simp [asReference] at h

@[grind →] theorem isPlain_of_asSetting {setting : GlobalSetting}
    (h : part.asSetting = .ok setting) : part.isPlain = true := by
  cases part <;> first | rfl | simp [asSetting] at h

@[grind →] theorem isPlain_of_asColumnDirective {directive : ColumnDirective}
    (h : part.asColumnDirective = .ok directive) : part.isPlain = true := by
  cases part <;> first | rfl | simp [asColumnDirective] at h

@[grind →] theorem isPlain_of_readBounds {α : Type} [LE α] [DecidableLE α] {form : BoundForm α}
    {lower upper : Part} {bounds : Bounds α} (h : readBounds form lower upper = .ok bounds) :
    lower.isPlain = true ∧ upper.isPlain = true := by
  simp only [readBounds, Fallible.bind_eq_ok] at h
  obtain ⟨low, hlow, -, -, high, hhigh, -⟩ := h
  exact ⟨isPlain_of_asToken hlow, isPlain_of_asToken hhigh⟩

@[grind →] theorem isPlain_of_readFolderRule {rule : FolderRule}
    (h : readFolderRule part = .ok rule) : part.isPlain = true := by
  simp only [readFolderRule, Fallible.bind_eq_ok] at h
  obtain ⟨text, htext, -⟩ := h
  exact isPlain_of_asToken htext

end Plain

theorem asToken_eq_ok_iff (part : Part) (text : String) :
    part.asToken = .ok text ↔ part = .token text := by
  cases part <;> simp [asToken]

theorem asReference_eq_ok_iff (part : Part) (name : String) :
    part.asReference = .ok name ↔ part = .operand (.column name) := by
  cases part with
  | operand operand => cases operand <;> simp [asReference]
  | _ => simp [asReference]

theorem asCheck_eq_ok_iff (part : Part) (check : Check) :
    part.asCheck = .ok check ↔ part = .check check := by
  cases part <;> simp [asCheck]

theorem asColumn_eq_ok_iff (part : Part) (column : ColumnDefinition) :
    part.asColumn = .ok column ↔ part = .column column := by
  cases part <;> simp [asColumn]

theorem asRule_eq_ok_iff (part : Part) (rule : ColumnRule) :
    part.asRule = .ok rule ↔ part = .rule rule := by
  cases part <;> simp [asRule]

theorem asProlog_eq_ok_iff (part : Part) (head : Version × FileSettings) :
    part.asProlog = .ok head ↔ part = .prolog head.1 head.2 := by
  cases part <;> simp [asProlog, Prod.ext_iff]

theorem asBody_eq_ok_iff (part : Part) (columns : List ColumnDefinition × Nat) :
    part.asBody = .ok columns ↔ part = .body columns.1 columns.2 := by
  cases part <;> simp [asBody, Prod.ext_iff]

theorem asSchema_eq_ok_iff (part : Part) (schema : Schema) :
    part.asSchema = .ok schema ↔ part = .schema schema := by
  cases part <;> simp [asSchema]

/-- A clause is read from the parts of several checks or of one. -/
theorem asClause_eq_ok_iff (part : Part) (checks : List Check) :
    part.asClause = .ok checks ↔
      part = .clause checks ∨ ∃ check, part = .check check ∧ checks = [check] := by
  cases part <;> simp [asClause, eq_comm]

theorem slots_of_asClause {part : Part} {checks : List Check} (h : part.asClause = .ok checks) :
    part.slots = checkSlots checks ∧ part.isDocument = false := by
  rcases (asClause_eq_ok_iff part checks).1 h with rfl | ⟨check, rfl, rfl⟩
  · exact ⟨rfl, rfl⟩
  · exact ⟨(List.append_nil _).symm, rfl⟩

theorem asClause_mapSlots (f : Nat → Nat) {part : Part} {checks : List Check}
    (h : part.asClause = .ok checks) :
    (part.mapSlots f).asClause = .ok (mapCheckSlots f checks) := by
  rcases (asClause_eq_ok_iff part checks).1 h with rfl | ⟨check, rfl, rfl⟩
  · rfl
  · rfl

end Part

end CsvSchema
