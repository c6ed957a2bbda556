import CsvSchema.Tree.Json

/-!
# Values that come back from their text

A control character without a short escape is written as a number and comes back as one, so a value
need not come back as it was.  Nothing that is read from a value depends on the difference, because
its strings still have the same text.
-/

namespace CsvSchema.Json

/-- A unit as it comes back: a character that is written as a number is a number then. -/
def StringUnit.reread : StringUnit → StringUnit
  | .plain c => if escapeChar c = codedEscape c.toNat then .coded c.toNat else .plain c
  | .coded n => .coded n

mutual

/-- A value as it comes back from its text. -/
def Value.reread : Value → Value
  | .string units => .string (units.map StringUnit.reread)
  | .array items => .array (rereadItems items)
  | .object members => .object (rereadMembers members)
  | value => value

/-- Items as they come back. -/
def rereadItems : List Value → List Value
  | [] => []
  | item :: rest => item.reread :: rereadItems rest

/-- Members as they come back. -/
def rereadMembers : List (List StringUnit × Value) → List (List StringUnit × Value)
  | [] => []
  | (name, value) :: rest => (name.map StringUnit.reread, value.reread) :: rereadMembers rest

end

theorem rereadItems_eq (items : List Value) : rereadItems items = items.map Value.reread := by
  induction items with
  | nil => rfl
  | cons item rest ih => rw [rereadItems, ih, List.map_cons]

theorem rereadMembers_eq (members : List (List StringUnit × Value)) :
    rereadMembers members = members.map fun m => (m.1.map StringUnit.reread, m.2.reread) := by
  induction members with
  | nil => rfl
  | cons m rest ih => rw [rereadMembers, ih, List.map_cons]

section Texts

theorem highSurrogate_toNat (c : Char) : highSurrogate c.toNat = false := by
  have hvalid : c.toNat < 0xD800 ∨ 0xDFFF < c.toNat ∧ c.toNat < 0x110000 := c.valid
  simp only [highSurrogate, Bool.and_eq_false_iff, decide_eq_false_iff_not]
  omega

theorem lowSurrogate_toNat (c : Char) : lowSurrogate c.toNat = false := by
  have hvalid : c.toNat < 0xD800 ∨ 0xDFFF < c.toNat ∧ c.toNat < 0x110000 := c.valid
  simp only [lowSurrogate, Bool.and_eq_false_iff, decide_eq_false_iff_not]
  omega

/-- The number of a character spells the character, whatever follows. -/
theorem unitsText?_coded_toNat (c : Char) (rest : List StringUnit) :
    unitsText? (.coded c.toNat :: rest) = (unitsText? rest).map (c :: ·) := by
  rcases rest with _ | ⟨_ | m, rest⟩ <;>
    simp [unitsText?, highSurrogate_toNat, lowSurrogate_toNat]

theorem unitsText?_reread_plain (c : Char) (rest : List StringUnit) :
    unitsText? ((StringUnit.plain c).reread :: rest) = (unitsText? rest).map (c :: ·) := by
  rw [StringUnit.reread]
  split
  · exact unitsText?_coded_toNat c rest
  · rfl

/-- A number in front of a character does not take it for the other half of a pair. -/
theorem unitsText?_coded_reread_plain (n : Nat) (c : Char) (rest : List StringUnit) :
    unitsText? (.coded n :: (StringUnit.plain c).reread :: rest) =
      unitsText? (.coded n :: .plain c :: rest) := by
  rw [StringUnit.reread]
  split
  · simp [unitsText?, unitsText?_coded_toNat, lowSurrogate_toNat]
  · rfl

/-- What comes back has the same text, also behind a number that may be half of a pair. -/
theorem unitsText?_map_reread (units : List StringUnit) :
    unitsText? (units.map StringUnit.reread) = unitsText? units ∧
      ∀ n, unitsText? (.coded n :: units.map StringUnit.reread) =
        unitsText? (.coded n :: units) := by
  induction units with
  | nil => exact ⟨rfl, fun _ => rfl⟩
  | cons unit rest ih =>
      obtain ⟨ihrest, ihcoded⟩ := ih
      rw [List.map_cons]
      cases unit with
      | plain c =>
          refine ⟨?_, fun n => ?_⟩
          · rw [unitsText?_reread_plain, ihrest, unitsText?]
          · rw [unitsText?_coded_reread_plain]
            simp [unitsText?, ihrest]
      | coded m =>
          refine ⟨ihcoded m, fun n => ?_⟩
          rw [StringUnit.reread, unitsText?, unitsText?, ihrest, ihcoded]

theorem unitsText?_reread (units : List StringUnit) :
    unitsText? (units.map StringUnit.reread) = unitsText? units :=
  (unitsText?_map_reread units).1

theorem unitsText?_unitsOf (s : String) : unitsText? (unitsOf s) = some s.toList := by
  rw [unitsOf]
  induction s.toList with
  | nil => rfl
  | cons c cs ih => rw [List.map_cons, unitsText?, ih, Option.map_some]

end Texts

section Shapes

mutual

theorem Value.height_reread (value : Value) : value.reread.height = value.height := by
  cases value with
  | array items => rw [Value.reread, Value.height, Value.height, itemsHeight_rereadItems items]
  | object members =>
      rw [Value.reread, Value.height, Value.height, membersHeight_rereadMembers members]
  | _ => rfl

theorem itemsHeight_rereadItems (items : List Value) :
    itemsHeight (rereadItems items) = itemsHeight items := by
  cases items with
  | nil => rfl
  | cons item rest =>
      rw [rereadItems, itemsHeight, itemsHeight, Value.height_reread item,
        itemsHeight_rereadItems rest]

theorem membersHeight_rereadMembers (members : List (List StringUnit × Value)) :
    membersHeight (rereadMembers members) = membersHeight members := by
  cases members with
  | nil => rfl
  | cons m rest =>
      obtain ⟨name, value⟩ := m
      rw [rereadMembers, membersHeight, membersHeight, Value.height_reread value,
        membersHeight_rereadMembers rest]

end

mutual

theorem Value.isSound_reread (value : Value) : value.reread.isSound = value.isSound := by
  cases value with
  | string units => rw [Value.reread, Value.isSound, Value.isSound, unitsText?_reread]
  | array items => rw [Value.reread, Value.isSound, Value.isSound, itemsSound_rereadItems items]
  | object members =>
      rw [Value.reread, Value.isSound, Value.isSound, membersSound_rereadMembers members]
  | _ => rfl

theorem itemsSound_rereadItems (items : List Value) :
    itemsSound (rereadItems items) = itemsSound items := by
  cases items with
  | nil => rfl
  | cons item rest =>
      rw [rereadItems, itemsSound, itemsSound, Value.isSound_reread item,
        itemsSound_rereadItems rest]

theorem membersSound_rereadMembers (members : List (List StringUnit × Value)) :
    membersSound (rereadMembers members) = membersSound members := by
  cases members with
  | nil => rfl
  | cons m rest =>
      obtain ⟨name, value⟩ := m
      rw [rereadMembers, membersSound, membersSound, unitsText?_reread,
        Value.isSound_reread value, membersSound_rereadMembers rest]

end

end Shapes

section Readers

/-- What is read from a value is the same when the value comes back. -/
def IgnoresSpelling {α : Type} (read : Value → Option α) : Prop :=
  ∀ value, read value.reread = read value

theorem ignoresSpelling_text? : IgnoresSpelling Value.text? := by
  intro value
  cases value with
  | string units => rw [Value.reread, Value.text?, Value.text?, unitsText?_reread]
  | _ => rfl

theorem ignoresSpelling_nat? (limit : Nat) : IgnoresSpelling (Value.nat? limit) := by
  intro value
  cases value <;> rfl

theorem IgnoresSpelling.mapM_map {α : Type} {read : Value → Option α} (h : IgnoresSpelling read)
    (values : List Value) : (values.map Value.reread).mapM read = values.mapM read := by
  rw [List.mapM_map]
  exact congrArg (values.mapM ·) (funext h)

theorem IgnoresSpelling.itemsOf? {α : Type} {read : Value → Option α} (h : IgnoresSpelling read) :
    IgnoresSpelling (itemsOf? read) := by
  intro value
  cases value with
  | array items => rw [Value.reread, rereadItems_eq]; exact h.mapM_map items
  | _ => rfl

theorem valuesOf_reread (name : String) (members : List (List StringUnit × Value)) :
    valuesOf name (rereadMembers members) = (valuesOf name members).map Value.reread := by
  simp only [valuesOf, rereadMembers_eq, List.filter_map, List.map_map, Function.comp_def,
    unitsText?_reread]

theorem fieldOf?_reread (members : List (List StringUnit × Value)) (name : String) :
    fieldOf? (rereadMembers members) name =
      (fieldOf? members name).map (·.map Value.reread) := by
  rw [fieldOf?, fieldOf?, valuesOf_reread]
  rcases valuesOf name members with _ | ⟨value, _ | ⟨next, rest⟩⟩ <;> rfl

/-- The fields of a record come back one by one. -/
theorem recordFields?_reread (names : List String) (value : Value) :
    recordFields? names value.reread =
      (recordFields? names value).map (·.map (·.map Value.reread)) := by
  cases value with
  | array items =>
      rw [Value.reread, rereadItems_eq, recordFields?, recordFields?, List.length_map]
      split
      · simp
      · rfl
  | object members =>
      have hnames : (rereadMembers members).all (fun m => (unitsText? m.1).isSome) =
          members.all fun m => (unitsText? m.1).isSome := by
        simp only [rereadMembers_eq, List.all_map, Function.comp_def, unitsText?_reread]
      rw [Value.reread, recordFields?, recordFields?, hnames]
      split
      · induction names with
        | nil => rfl
        | cons name names ih =>
            rw [List.mapM_cons, List.mapM_cons, ih, fieldOf?_reread]
            cases fieldOf? members name with
            | none => rfl
            | some field => cases names.mapM (fieldOf? members) <;> rfl
      · rfl
  | _ => rfl

theorem IgnoresSpelling.optional?_map {α : Type} {read : Value → Option α}
    (h : IgnoresSpelling read) (field : Option Value) :
    optional? read (field.map Value.reread) = optional? read field := by
  rcases field with _ | value
  · rfl
  · cases value with
    | null => rfl
    | _ => exact congrArg (·.map some) (h _)

theorem IgnoresSpelling.defaulted?_map {α : Type} {read : Value → Option α}
    (h : IgnoresSpelling read) (default : α) (field : Option Value) :
    defaulted? default read (field.map Value.reread) = defaulted? default read field := by
  cases field with
  | none => rfl
  | some value => exact h value

end Readers

end CsvSchema.Json
