import CsvSchema.Collection.KeyOrder

/-!
# Maps in key order

A map is the list of its entries with keys strictly increasing, so two maps with the same entries
are the same map and the order in which keys were added cannot be seen.
-/

namespace CsvSchema

open KeyOrder

/-- Change the value of a key, or add the key with the change of an initial value. -/
def alterEntry {κ β : Type} [KeyOrder κ] (key : κ) (initial : β) (change : β → β) :
    List (κ × β) → List (κ × β)
  | [] => [(key, change initial)]
  | entry :: rest =>
      if before key entry.1 then (key, change initial) :: entry :: rest
      else if before entry.1 key then entry :: alterEntry key initial change rest
      else (entry.1, change entry.2) :: rest

/-- Keys strictly increase. -/
def KeysIncrease {κ β : Type} [KeyOrder κ] (entries : List (κ × β)) : Prop :=
  entries.Pairwise fun a b => before a.1 b.1 = true

theorem fst_of_mem_alterEntry {κ β : Type} [KeyOrder κ] {key : κ} {initial : β}
    {change : β → β} {entries : List (κ × β)} {e : κ × β}
    (h : e ∈ alterEntry key initial change entries) : e.1 = key ∨ ∃ d ∈ entries, e.1 = d.1 := by
  induction entries with
  | nil => simp_all [alterEntry]
  | cons d rest ih => grind [alterEntry]

theorem KeysIncrease.alterEntry {κ β : Type} [KeyOrder κ] {entries : List (κ × β)}
    (h : KeysIncrease entries) (key : κ) (initial : β) (change : β → β) :
    KeysIncrease (alterEntry key initial change entries) := by
  induction entries with
  | nil => simp [KeysIncrease, CsvSchema.alterEntry]
  | cons d rest ih =>
      obtain ⟨hd, hrest⟩ := List.pairwise_cons.1 h
      unfold CsvSchema.alterEntry
      split
      · rename_i hkey
        refine List.pairwise_cons.2 ⟨fun e he => ?_, h⟩
        rcases List.mem_cons.1 he with rfl | he
        · exact hkey
        · exact trans hkey (hd e he)
      · split
        · rename_i hkey
          refine List.pairwise_cons.2 ⟨fun e he => ?_, ih hrest⟩
          rcases fst_of_mem_alterEntry he with h | ⟨d', hd', h⟩
          · rw [h]; exact hkey
          · rw [h]; exact hd d' hd'
        · exact List.pairwise_cons.2 ⟨hd, hrest⟩

theorem find?_eq_none_of_before {κ β : Type} [KeyOrder κ] [DecidableEq κ] {key : κ}
    {entries : List (κ × β)} (h : ∀ e ∈ entries, before key e.1 = true) :
    entries.find? (·.1 = key) = none := by
  rw [List.find?_eq_none]
  intro e he
  simpa using (ne_of_before (h e he)).symm

/-- Looking up a key after a change.  The order of the keys is needed because the change stops at
the first key that does not come before the changed one. -/
theorem find?_alterEntry {κ β : Type} [KeyOrder κ] [DecidableEq κ] {entries : List (κ × β)}
    (h : KeysIncrease entries) (key : κ) (initial : β) (change : β → β) (k : κ) :
    ((alterEntry key initial change entries).find? (·.1 = k)).map (·.2) =
      if k = key then some (change (((entries.find? (·.1 = key)).map (·.2)).getD initial))
      else (entries.find? (·.1 = k)).map (·.2) := by
  induction entries with
  | nil =>
      by_cases hk : k = key
      · simp [alterEntry, hk]
      · simp [alterEntry, hk, Ne.symm hk]
  | cons d rest ih =>
      obtain ⟨hd, hrest⟩ := List.pairwise_cons.1 h
      specialize ih hrest
      unfold alterEntry
      split
      -- The key comes before all that are left, so it was not there.
      · rename_i hkey
        have hnone : (d :: rest).find? (·.1 = key) = none := by
          apply find?_eq_none_of_before
          intro e he
          rcases List.mem_cons.1 he with rfl | he
          · exact hkey
          · exact trans hkey (hd e he)
        by_cases hk : k = key
        · simp [hk, hnone]
        · rw [if_neg hk, List.find?_cons_of_neg (by simpa using Ne.symm hk)]
      · split
        · rename_i hkey
          have hne : d.1 ≠ key := ne_of_before hkey
          by_cases hd' : d.1 = k
          · subst hd'
            simp [hne]
          · rw [List.find?_cons_of_neg (by simpa using hd'), ih,
              List.find?_cons_of_neg (a := d) (by simpa using hne),
              List.find?_cons_of_neg (a := d) (by simpa using hd')]
        · rename_i hbefore hafter
          have heq : key = d.1 := connected (by simpa using hbefore) (by simpa using hafter)
          subst heq
          by_cases hk : k = d.1
          · simp [hk]
          · simp [hk, Ne.symm hk]

/-- A map from keys to values, in key order. -/
structure OrderedMap (κ β : Type) [KeyOrder κ] where
  entries : List (κ × β)
  increasing : KeysIncrease entries

namespace OrderedMap

variable {κ β : Type} [KeyOrder κ]

/-- The map without entries. -/
def empty : OrderedMap κ β := ⟨[], .nil⟩

instance : Inhabited (OrderedMap κ β) := ⟨empty⟩

/-- Change the value of a key, or add the key with the change of an initial value. -/
def alter (map : OrderedMap κ β) (key : κ) (initial : β) (change : β → β) : OrderedMap κ β :=
  ⟨alterEntry key initial change map.entries, map.increasing.alterEntry key initial change⟩

/-- Set the value of a key. -/
def insert (map : OrderedMap κ β) (key : κ) (value : β) : OrderedMap κ β :=
  map.alter key value fun _ => value

/-- Add a key with a value, unless the key has one already. -/
def insertNew (map : OrderedMap κ β) (key : κ) (value : β) : OrderedMap κ β :=
  map.alter key value id

/-- The value of a key. -/
def get? [DecidableEq κ] (map : OrderedMap κ β) (key : κ) : Option β :=
  (map.entries.find? (·.1 = key)).map (·.2)

/-- The keys in order. -/
def keys (map : OrderedMap κ β) : List κ := map.entries.map (·.1)

/-- The map with some entries, where a later value for a key replaces an earlier one. -/
def ofList (entries : List (κ × β)) : OrderedMap κ β :=
  entries.foldl (fun map entry => map.insert entry.1 entry.2) empty

/-- The entries whose value `p` accepts. -/
def filter (map : OrderedMap κ β) (p : β → Bool) : OrderedMap κ β :=
  ⟨map.entries.filter fun entry => p entry.2, map.increasing.filter _⟩

@[simp] theorem get?_empty [DecidableEq κ] (key : κ) :
    (empty : OrderedMap κ β).get? key = none := rfl

theorem get?_alter [DecidableEq κ] (map : OrderedMap κ β) (key : κ) (initial : β)
    (change : β → β) (k : κ) :
    (map.alter key initial change).get? k =
      if k = key then some (change ((map.get? key).getD initial)) else map.get? k :=
  find?_alterEntry map.increasing key initial change k

theorem get?_insert [DecidableEq κ] (map : OrderedMap κ β) (key : κ) (value : β) (k : κ) :
    (map.insert key value).get? k = if k = key then some value else map.get? k := by
  rw [insert, get?_alter]

theorem get?_eq_some_iff [DecidableEq κ] (map : OrderedMap κ β) (key : κ) (value : β) :
    map.get? key = some value ↔ (key, value) ∈ map.entries := by
  obtain ⟨entries, increasing⟩ := map
  simp only [get?]
  induction entries with
  | nil => simp
  | cons d rest ih =>
      obtain ⟨hd, hrest⟩ := List.pairwise_cons.1 increasing
      by_cases hkey : d.1 = key
      · subst hkey
        have habsent : (d.1, value) ∉ rest := fun hmem => ne_of_before (hd _ hmem) rfl
        simp [habsent, Prod.ext_iff, eq_comm]
      · rw [List.find?_cons_of_neg (by simpa using hkey), ih hrest]
        simp [Prod.ext_iff, Ne.symm hkey]

theorem pairwise_keys (map : OrderedMap κ β) :
    map.keys.Pairwise fun a b => before a b = true :=
  List.pairwise_map.2 map.increasing

end OrderedMap

end CsvSchema
