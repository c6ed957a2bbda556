import CsvSchema.Proofs.Decimal.Rounding
import CsvSchema.Proofs.Json.Tokens

/-!
# Values that are read back

Whatever blanks stand between the tokens, a value comes back from its text,
`Value.Plain.read?_print`.  The bound on the steps of the reader is met because every step takes
something off the text.
-/

namespace CsvSchema.Json

/-- A value whose strings are texts and whose numbers are words. -/
inductive Value.Plain : Value → Prop
  | null : Plain .null
  | bool (value : Bool) : Plain (.bool value)
  | nat {n : Nat} (h : n ≤ Decimal.maxWord64) : Plain (.ofNat n)
  | text (s : String) : Plain (.ofString s)
  | array {items : List Value} (h : ∀ item ∈ items, Plain item) : Plain (.array items)
  | object {members : List (String × Value)} (h : ∀ m ∈ members, Plain m.2) :
      Plain (.object (members.map fun m => member m.1 m.2))

/-- A layout that adds nothing but blanks. -/
structure Layout.IsBlank (layout : Layout) : Prop where
  beforeItem : ∀ depth, ∀ c ∈ layout.beforeItem depth, isJsonBlank c = true
  beforeClose : ∀ depth, ∀ c ∈ layout.beforeClose depth, isJsonBlank c = true
  colon : ∃ blanks, layout.colon = ':' :: blanks ∧ ∀ c ∈ blanks, isJsonBlank c = true

theorem Layout.isBlank_compact : Layout.compact.IsBlank :=
  ⟨fun _ _ h => absurd h List.not_mem_nil, fun _ _ h => absurd h List.not_mem_nil,
    [], rfl, fun _ h => absurd h List.not_mem_nil⟩

theorem Layout.isBlank_indented : Layout.indented.IsBlank := by
  have hline : ∀ depth, ∀ c ∈ '\n' :: List.replicate (2 * depth) ' ', isJsonBlank c = true := by
    intro depth c hc
    rcases List.mem_cons.1 hc with rfl | hc
    · rfl
    · rw [(List.mem_replicate.1 hc).2]
      rfl
  exact ⟨hline, hline, [' '], rfl, List.forall_mem_singleton.2 rfl⟩

section Blanks

theorem readValue?_append {blanks : List Char} (h : ∀ c ∈ blanks, isJsonBlank c = true)
    (fuel : Nat) (s : List Char) : readValue? fuel (blanks ++ s) = readValue? fuel s := by
  cases fuel with
  | zero => rw [readValue?, readValue?]
  | succ fuel => rw [readValue?, readValue?, skipBlank_append h]

theorem readItems?_append {blanks : List Char} (h : ∀ c ∈ blanks, isJsonBlank c = true)
    (fuel : Nat) (s : List Char) : readItems? fuel (blanks ++ s) = readItems? fuel s := by
  cases fuel with
  | zero => rw [readItems?, readItems?]
  | succ fuel => rw [readItems?, readItems?, readValue?_append h]

theorem readMembers?_append {blanks : List Char} (h : ∀ c ∈ blanks, isJsonBlank c = true)
    (fuel : Nat) (s : List Char) : readMembers? fuel (blanks ++ s) = readMembers? fuel s := by
  cases fuel with
  | zero => rw [readMembers?, readMembers?]
  | succ fuel => rw [readMembers?, readMembers?, skipBlank_append h]

end Blanks

/-- A value that comes back from its text, whatever follows, when the reader has a step for each
character of the text. -/
structure ReadsBack (layout : Layout) (value : Value) : Prop where
  /-- The text cannot be taken for blanks or for the end of an array. -/
  start : ∀ depth, ∃ c s, printValue layout depth value = c :: s ∧ isJsonBlank c = false ∧ c ≠ ']'
  read : ∀ (fuel depth : Nat) (rest : List Char),
    (printValue layout depth value).length ≤ fuel → EndsValue rest →
      readValue? fuel (printValue layout depth value ++ rest) = some (value.reread, rest)

/-- There is a character to read, so the reader has a step to take. -/
theorem readsBack_of_succ {layout : Layout} {value : Value}
    (start : ∀ depth, ∃ c s, printValue layout depth value = c :: s ∧ isJsonBlank c = false ∧
      c ≠ ']')
    (read : ∀ (fuel depth : Nat) (rest : List Char),
      (printValue layout depth value).length ≤ fuel + 1 → EndsValue rest →
        readValue? (fuel + 1) (printValue layout depth value ++ rest) =
          some (value.reread, rest)) : ReadsBack layout value := by
  refine ⟨start, fun fuel depth rest hfuel hrest => ?_⟩
  obtain ⟨c, s, hstart, -, -⟩ := start depth
  rw [hstart, List.length_cons] at hfuel
  obtain ⟨left, rfl⟩ : ∃ left, fuel = left + 1 := ⟨fuel - 1, by omega⟩
  exact read left depth rest (by rw [hstart, List.length_cons]; exact hfuel) hrest

theorem ReadsBack.length_pos {layout : Layout} {value : Value} (h : ReadsBack layout value)
    (depth : Nat) : 0 < (printValue layout depth value).length := by
  obtain ⟨c, s, hstart, -, -⟩ := h.start depth
  rw [hstart]
  exact Nat.succ_pos _

section Atoms

variable (layout : Layout)

theorem readsBack_null : ReadsBack layout .null :=
  readsBack_of_succ (fun _ => ⟨'n', _, rfl, by decide, by decide⟩) fun _ _ _ _ _ => rfl

theorem readsBack_bool (value : Bool) : ReadsBack layout (.bool value) := by
  cases value with
  | false =>
      exact readsBack_of_succ (fun _ => ⟨'f', _, rfl, by decide, by decide⟩) fun _ _ _ _ _ => rfl
  | true =>
      exact readsBack_of_succ (fun _ => ⟨'t', _, rfl, by decide, by decide⟩) fun _ _ _ _ _ => rfl

theorem readsBack_ofString (s : String) : ReadsBack layout (.ofString s) := by
  refine readsBack_of_succ (fun _ => ⟨'"', _, rfl, by decide, by decide⟩)
    fun fuel depth rest _ _ => ?_
  rw [Value.ofString, printValue, printString, List.cons_append, List.cons_append,
    List.append_assoc, List.singleton_append, readValue?, skipBlank_cons rfl]
  simp only [readString?_unitsOf]
  rfl

theorem readsBack_ofNat (n : Nat) : ReadsBack layout (.ofNat n) := by
  obtain ⟨c, s, hdigits, hchar⟩ := Decimal.exists_digits_eq_cons n
  have hblank : isJsonBlank c = false := by
    simp only [isJsonBlank, Bool.or_eq_false_iff, beq_eq_false_iff_ne]
    exact ⟨⟨⟨hchar _ rfl, hchar _ rfl⟩, hchar _ rfl⟩, hchar _ rfl⟩
  have hvalue : ∀ fuel rest, readValue? (fuel + 1) (c :: rest) =
      (readNumber? (c :: rest)).map fun r => (.number r.1, r.2) := by
    intro fuel rest
    rw [readValue?, skipBlank_cons hblank]
    split
    case h_7 => rfl
    -- No other kind of value starts with a digit.
    all_goals
      rename_i heq
      exact absurd (List.cons.inj heq).1 (hchar _ (by decide))
  refine readsBack_of_succ (fun _ => ⟨c, s, hdigits, hblank, hchar ']' (by decide)⟩)
    fun fuel depth rest _ hrest => ?_
  have hnumber := readNumber?_digits n hrest
  rw [Value.ofNat, printValue, hdigits] at *
  rw [List.cons_append, hvalue, ← List.cons_append, hnumber]
  rfl

end Atoms

section Compounds

variable {layout : Layout}

theorem endsValue_printItems (depth : Nat) (items : List Value) {rest : List Char}
    (hrest : EndsValue rest) : EndsValue (printItems layout depth items ++ rest) := by
  cases items with
  | nil => exact hrest
  | cons item items => exact endsValue_cons (by decide) _

theorem endsValue_printMembers (depth : Nat) (members : List (List StringUnit × Value))
    {rest : List Char} (hrest : EndsValue rest) :
    EndsValue (printMembers layout depth members ++ rest) := by
  cases members with
  | nil => exact hrest
  | cons m members => exact endsValue_cons (by decide) _

variable (hlayout : layout.IsBlank)
include hlayout

/-- Items that come back one by one come back all together. -/
theorem readItems?_printItems {item : Value} {items : List Value} {fuel depth : Nat}
    (hitem : ReadsBack layout item) (hitems : ∀ next ∈ items, ReadsBack layout next)
    (hfuel : (printValue layout (depth + 1) item).length + (printItems layout depth items).length <
      fuel) (rest : List Char) :
    readItems? fuel (printValue layout (depth + 1) item ++ (printItems layout depth items ++
      (layout.beforeClose (depth - 1) ++ ']' :: rest))) =
        some ((item :: items).map Value.reread, rest) := by
  have hclose : EndsValue (layout.beforeClose (depth - 1) ++ ']' :: rest) :=
    endsValue_append (hlayout.beforeClose _) (endsValue_cons (by decide) rest)
  obtain ⟨fuel, rfl⟩ : ∃ left, fuel = left + 1 := ⟨fuel - 1, by omega⟩
  induction items generalizing item fuel with
  | nil =>
      rw [readItems?, printItems, List.nil_append, hitem.read _ _ _ (by omega) hclose]
      simp only [skipBlank_append (hlayout.beforeClose _), skipBlank_cons (c := ']') rfl]
      rfl
  | cons next items ih =>
      obtain ⟨hnext, hitems⟩ := List.forall_mem_cons.1 hitems
      -- The item has at least one character, which pays for the step of the reader.
      have hlength := hitem.length_pos (depth + 1)
      rw [readItems?, hitem.read _ _ _ (by omega) (endsValue_printItems depth _ hclose), printItems]
      simp only [List.length_cons, List.length_append, List.cons_append, List.append_assoc,
        skipBlank_cons (c := ',') rfl, readItems?_append (hlayout.beforeItem depth),
        printItems] at hfuel ⊢
      obtain ⟨fuel, rfl⟩ : ∃ left, fuel = left + 1 := ⟨fuel - 1, by omega⟩
      rw [ih hnext hitems fuel (by omega)]
      rfl

/-- What is read behind a member: more of them, or the end of the object. -/
def readAfterMember? (fuel : Nat) (m : List StringUnit × Value) (after : List Char) :
    Option (List (List StringUnit × Value) × List Char) :=
  match skipBlank after with
  | ',' :: rest => (readMembers? fuel rest).map fun r => (m :: r.1, r.2)
  | '\x7d' :: rest => some ([m], rest)
  | _ => none

/-- A name and a value come back, and what follows them decides what is read next. -/
theorem readMembers?_printMember (name : String) {value : Value} (hvalue : ReadsBack layout value)
    {fuel depth : Nat} (hfuel : (printValue layout (depth + 1) value).length ≤ fuel)
    {after : List Char} (hafter : EndsValue after) :
    readMembers? (fuel + 1) (printString (unitsOf name) ++ (layout.colon ++
        (printValue layout (depth + 1) value ++ after))) =
      readAfterMember? fuel ((unitsOf name).map StringUnit.reread, value.reread) after := by
  obtain ⟨blanks, hcolon, hblanks⟩ := hlayout.colon
  rw [readMembers?, printString, List.cons_append, List.cons_append, List.append_assoc,
    List.singleton_append, skipBlank_cons rfl]
  simp only [readString?_unitsOf, hcolon, List.cons_append, skipBlank_cons (c := ':') rfl,
    readValue?_append hblanks, hvalue.read _ _ _ hfuel hafter]
  rfl

/-- Members that come back one by one come back all together. -/
theorem readMembers?_printMembers {m : String × Value} {members : List (String × Value)}
    {fuel depth : Nat} (hm : ReadsBack layout m.2)
    (hmembers : ∀ next ∈ members, ReadsBack layout next.2)
    (hfuel : (printValue layout (depth + 1) m.2).length +
      (printMembers layout depth (members.map fun m => member m.1 m.2)).length < fuel)
    (rest : List Char) :
    readMembers? fuel (printString (unitsOf m.1) ++ (layout.colon ++
      (printValue layout (depth + 1) m.2 ++
        (printMembers layout depth (members.map fun m => member m.1 m.2) ++
          (layout.beforeClose (depth - 1) ++ '\x7d' :: rest))))) =
      some (rereadMembers ((m :: members).map fun m => member m.1 m.2), rest) := by
  have hclose : EndsValue (layout.beforeClose (depth - 1) ++ '\x7d' :: rest) :=
    endsValue_append (hlayout.beforeClose _) (endsValue_cons (by decide) rest)
  obtain ⟨fuel, rfl⟩ : ∃ left, fuel = left + 1 := ⟨fuel - 1, by omega⟩
  induction members generalizing m fuel with
  | nil =>
      rw [List.map_nil, printMembers, List.nil_append,
        readMembers?_printMember hlayout m.1 hm (by omega) hclose, readAfterMember?]
      simp only [skipBlank_append (hlayout.beforeClose _), skipBlank_cons (c := '\x7d') rfl]
      rfl
  | cons next members ih =>
      obtain ⟨hnext, hmembers⟩ := List.forall_mem_cons.1 hmembers
      rw [readMembers?_printMember hlayout m.1 hm (by omega)
        (endsValue_printMembers depth _ hclose), readAfterMember?]
      -- The comma and the name have characters too, so one step less is enough for the others.
      simp only [List.map_cons, member, printMembers, List.length_cons, List.length_append,
        List.cons_append, List.append_assoc, skipBlank_cons (c := ',') rfl,
        readMembers?_append (hlayout.beforeItem depth)] at hfuel ih ⊢
      obtain ⟨fuel, rfl⟩ : ∃ left, fuel = left + 1 := ⟨fuel - 1, by omega⟩
      rw [ih hnext hmembers fuel (by omega)]
      rfl

/-- Behind a bracket stands an item, unless it is the end of the array. -/
theorem readValue?_openBracket (fuel depth : Nat) {item : List Char}
    (hitem : ∃ c s, item = c :: s ∧ isJsonBlank c = false ∧ c ≠ ']') (rest : List Char) :
    readValue? (fuel + 1) ('[' :: (layout.beforeItem depth ++ (item ++ rest))) =
      (readItems? fuel (item ++ rest)).map fun r => (.array r.1, r.2) := by
  obtain ⟨c, s, rfl, hblank, hclose⟩ := hitem
  simp only [readValue?, skipBlank_cons (c := '[') rfl, skipBlank_append (hlayout.beforeItem depth),
    List.cons_append, skipBlank_cons hblank]
  split
  · -- The item would start with the bracket that ends the array.
    rename_i heq
    exact absurd (List.cons.inj heq).1 hclose
  · rfl

/-- Behind a brace stands a name, unless it is the end of the object. -/
theorem readValue?_openBrace (fuel depth : Nat) (units : List StringUnit) (rest : List Char) :
    readValue? (fuel + 1) ('\x7b' :: (layout.beforeItem depth ++ (printString units ++ rest))) =
      (readMembers? fuel (printString units ++ rest)).map fun r => (.object r.1, r.2) := by
  simp only [readValue?, skipBlank_cons (c := '\x7b') rfl,
    skipBlank_append (hlayout.beforeItem depth), printString, List.cons_append,
    skipBlank_cons (c := '"') rfl]
  rfl

theorem readsBack_array {items : List Value} (h : ∀ item ∈ items, ReadsBack layout item) :
    ReadsBack layout (.array items) := by
  cases items with
  | nil =>
      exact readsBack_of_succ (fun _ => ⟨'[', _, rfl, by decide, by decide⟩) fun _ _ _ _ _ => rfl
  | cons item items =>
      obtain ⟨hitem, hitems⟩ := List.forall_mem_cons.1 h
      refine readsBack_of_succ (fun _ => ⟨'[', _, rfl, by decide, by decide⟩)
        fun fuel depth rest hfuel _ => ?_
      simp only [printValue, List.length_cons, List.length_append, List.cons_append,
        List.append_assoc, List.nil_append] at hfuel ⊢
      rw [readValue?_openBracket hlayout fuel depth (hitem.start _),
        readItems?_printItems hlayout hitem hitems (by omega), Value.reread, rereadItems_eq]
      rfl

theorem readsBack_object {members : List (String × Value)}
    (h : ∀ m ∈ members, ReadsBack layout m.2) :
    ReadsBack layout (.object (members.map fun m => member m.1 m.2)) := by
  cases members with
  | nil =>
      exact readsBack_of_succ (fun _ => ⟨'\x7b', _, rfl, by decide, by decide⟩)
        fun _ _ _ _ _ => rfl
  | cons m members =>
      obtain ⟨hm, hmembers⟩ := List.forall_mem_cons.1 h
      refine readsBack_of_succ (fun _ => ⟨'\x7b', _, rfl, by decide, by decide⟩)
        fun fuel depth rest hfuel _ => ?_
      simp only [List.map_cons, member, printValue, List.length_cons, List.length_append,
        List.cons_append, List.append_assoc, List.nil_append] at hfuel ⊢
      have hlength : (printValue layout (depth + 1) m.2).length +
          (printMembers layout depth (members.map fun m => member m.1 m.2)).length < fuel := by
        simp only [member]
        omega
      have hread := readMembers?_printMembers hlayout hm hmembers hlength rest
      simp only [member] at hread
      rw [readValue?_openBrace hlayout fuel depth, hread]
      rfl

end Compounds

/-- A value whose strings are texts and whose numbers are words comes back from its text. -/
theorem Value.Plain.readsBack {layout : Layout} (hlayout : layout.IsBlank) {value : Value}
    (h : value.Plain) : ReadsBack layout value := by
  induction h with
  | null => exact readsBack_null layout
  | bool value => exact readsBack_bool layout value
  | nat _ => exact readsBack_ofNat layout _
  | text s => exact readsBack_ofString layout s
  | array _ ih => exact readsBack_array hlayout ih
  | object _ ih => exact readsBack_object hlayout ih

/-- Reading undoes printing. -/
theorem Value.Plain.read?_print {layout : Layout} (hlayout : layout.IsBlank) {value : Value}
    (h : value.Plain) : read? (String.ofList (printValue layout 1 value)) = some value.reread := by
  have hread := (h.readsBack hlayout).read _ 1 [] (Nat.le_succ _) (fun _ hc => nomatch hc)
  rw [List.append_nil] at hread
  rw [read?, String.toList_ofList, String.length_ofList, hread]
  rfl

theorem itemsSound_of_forall {items : List Value} (h : ∀ item ∈ items, item.isSound = true) :
    itemsSound items = true := by
  induction items with
  | nil => rfl
  | cons item rest ih =>
      obtain ⟨hitem, hrest⟩ := List.forall_mem_cons.1 h
      rw [itemsSound, hitem, ih hrest, Bool.and_true]

theorem membersSound_of_forall {members : List (String × Value)}
    (h : ∀ m ∈ members, m.2.isSound = true) :
    membersSound (members.map fun m => member m.1 m.2) = true := by
  induction members with
  | nil => rfl
  | cons m rest ih =>
      obtain ⟨hm, hrest⟩ := List.forall_mem_cons.1 h
      rw [List.map_cons, member, membersSound, unitsText?_unitsOf, hm, ih hrest]
      rfl

/-- Words are within the range of floating point numbers. -/
theorem Value.Plain.isSound {value : Value} (h : value.Plain) : value.isSound = true := by
  induction h with
  | null | bool => rfl
  | nat h => exact Decimal.isSome_readBinary64?_digits h
  | text s => rw [Value.ofString, Value.isSound, unitsText?_unitsOf, Option.isSome_some]
  | array _ ih => exact itemsSound_of_forall ih
  | object _ ih => exact membersSound_of_forall ih

end CsvSchema.Json
