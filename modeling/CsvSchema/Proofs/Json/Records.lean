import CsvSchema.Proofs.Json.Values

/-!
# Records that are read back

A record is written as the object of those of its fields that are there.  Its fields come back, the
absent ones included, because their names differ.
-/

namespace CsvSchema.Json

theorem Value.text?_ofString (s : String) : (Value.ofString s).text? = some s := by
  rw [ofString, text?, unitsText?_unitsOf, Option.map_some, String.ofList_toList]

theorem Value.nat?_ofNat {limit n : Nat} (h : n ≤ limit) :
    (Value.ofNat n).nat? limit = some n := by
  rw [ofNat, nat?, if_pos (List.all_eq_true.2 Decimal.isDigit_of_mem_digits),
    Decimal.readNatural?_digits h]

/-- The members of those fields that are there. -/
def fieldMembers (fields : List (String × Option Value)) : List (List StringUnit × Value) :=
  fields.filterMap fun field => field.2.map (member field.1)

/-- The object with some names, of whose values those are written that are there. -/
def record (names : List String) (values : List (Option Value)) : Value :=
  .object (fieldMembers (names.zip values))

theorem fieldMembers_cons_some (name : String) (value : Value)
    (rest : List (String × Option Value)) :
    fieldMembers ((name, some value) :: rest) = member name value :: fieldMembers rest := rfl

theorem valuesOf_cons_member (name name' : String) (value : Value)
    (members : List (List StringUnit × Value)) :
    valuesOf name (member name' value :: members) =
      if name' = name then value :: valuesOf name members else valuesOf name members := by
  have hname : (unitsText? (unitsOf name') == some name.toList) = decide (name' = name) := by
    rw [unitsText?_unitsOf, Bool.eq_iff_iff, beq_iff_eq, Option.some.injEq, String.toList_inj,
      decide_eq_true_iff]
  simp only [valuesOf, List.filter_cons, member, hname, decide_eq_true_eq]
  split <;> rfl

/-- A name that no field has is given no value. -/
theorem valuesOf_fields_of_not_mem {name : String} {fields : List (String × Option Value)}
    (h : name ∉ fields.map (·.1)) :
    valuesOf name (fieldMembers fields) = [] := by
  induction fields with
  | nil => rfl
  | cons field rest ih =>
      obtain ⟨name', value⟩ := field
      rw [List.map_cons, List.mem_cons, not_or] at h
      specialize ih h.2
      cases value with
      | none => exact ih
      | some value =>
          rw [fieldMembers_cons_some, valuesOf_cons_member, if_neg (Ne.symm h.1), ih]

/-- A field gives its value to its name, and no other field does. -/
theorem valuesOf_fields {fields : List (String × Option Value)}
    (hnames : (fields.map (·.1)).Nodup) {field : String × Option Value} (hfield : field ∈ fields) :
    valuesOf field.1 (fieldMembers fields) = field.2.toList := by
  induction fields with
  | nil => cases hfield
  | cons first rest ih =>
      obtain ⟨name, value⟩ := first
      obtain ⟨hfirst, hrest⟩ := List.nodup_cons.1 hnames
      rcases List.mem_cons.1 hfield with rfl | hfield
      · have hnone := valuesOf_fields_of_not_mem hfirst
        cases value with
        | none => exact hnone
        | some value =>
            rw [fieldMembers_cons_some, valuesOf_cons_member, if_pos rfl, hnone]
            rfl
      · have hne : name ≠ field.1 := fun heq =>
          hfirst (List.mem_map.2 ⟨field, hfield, heq.symm⟩)
        specialize ih hrest hfield
        cases value with
        | none => exact ih
        | some value => rw [fieldMembers_cons_some, valuesOf_cons_member, if_neg hne, ih]

/-- Items that are read one by one are read all together. -/
theorem mapM_map_eq_some {α β γ : Type} {make : α → β} {read : β → Option γ} {result : α → γ}
    {items : List α} (h : ∀ item ∈ items, read (make item) = some (result item)) :
    (items.map make).mapM read = some (items.map result) := by
  induction items with
  | nil => rfl
  | cons item rest ih =>
      obtain ⟨hitem, hrest⟩ := List.forall_mem_cons.1 h
      rw [List.map_cons, List.mapM_cons, hitem, ih hrest]
      rfl

theorem recordFields?_fieldMembers {fields : List (String × Option Value)}
    (hnames : (fields.map (·.1)).Nodup) :
    recordFields? (fields.map (·.1)) (.object (fieldMembers fields)) =
      some (fields.map (·.2)) := by
  have htexts : ∀ m ∈ fieldMembers fields, (unitsText? m.1).isSome = true := by
    intro m hm
    obtain ⟨field, -, hfield⟩ := List.mem_filterMap.1 hm
    obtain ⟨value, -, rfl⟩ := Option.map_eq_some_iff.1 hfield
    rw [member, unitsText?_unitsOf, Option.isSome_some]
  rw [recordFields?, if_pos (List.all_eq_true.2 htexts)]
  refine mapM_map_eq_some fun field hfield => ?_
  rw [fieldOf?, valuesOf_fields hnames hfield]
  cases field.2 <;> rfl

/-- The fields of a record come back. -/
theorem recordFields?_record {names : List String} (hnames : names.Nodup)
    {values : List (Option Value)} (hlength : names.length = values.length) :
    recordFields? names (record names values) = some values := by
  have hfst : (names.zip values).map (·.1) = names := List.map_fst_zip (Nat.le_of_eq hlength)
  have hsnd : (names.zip values).map (·.2) = values := List.map_snd_zip (Nat.le_of_eq hlength.symm)
  have hfields := recordFields?_fieldMembers (hfst.symm ▸ hnames)
  rwa [hfst, hsnd] at hfields

/-- A record is plain when the values of its fields are. -/
theorem plain_record {names : List String} {values : List (Option Value)}
    (h : ∀ value, some value ∈ values → value.Plain) : (record names values).Plain := by
  have hmembers : fieldMembers (names.zip values) = ((names.zip values).filterMap fun field =>
      field.2.map fun value => (field.1, value)).map fun m => member m.1 m.2 := by
    rw [fieldMembers, List.map_filterMap]
    simp only [Option.map_map, Function.comp_def]
  rw [record, hmembers]
  refine .object fun m hm => ?_
  obtain ⟨field, hfield, hm⟩ := List.mem_filterMap.1 hm
  obtain ⟨value, hvalue, rfl⟩ := Option.map_eq_some_iff.1 hm
  exact h value (hvalue ▸ (List.of_mem_zip hfield).2)

end CsvSchema.Json
