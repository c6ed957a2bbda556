import CsvSchema.Collection.OrderedMap

/-!
# Views of maps

Whatever is read off the entries of a map one by one comes out in key order.  So it depends on the
map only through what is read at each key: `flatMap_entries_congr`.  If two maps give the same
readings under two order-preserving numberings of their keys, they give them in the same order:
`map_viewed_eq_of_renumbered`.
-/

namespace CsvSchema

open KeyOrder

/-- Two lists of entries with increasing keys and the same members are the same. -/
theorem KeysIncrease.eq_of_mem_iff {κ β : Type} [KeyOrder κ] {as bs : List (κ × β)}
    (has : KeysIncrease as) (hbs : KeysIncrease bs) (h : ∀ e, e ∈ as ↔ e ∈ bs) : as = bs := by
  have hne : ∀ a b : κ × β, before a.1 b.1 = true → a ≠ b := fun a b hbefore heq =>
    ne_of_before hbefore (congrArg Prod.fst heq)
  -- Increasing lists have no duplicates, so they are permutations of each other, and sorted.
  have hperm : as.Perm bs :=
    (List.perm_ext_iff_of_nodup (has.imp (hne _ _)) (hbs.imp (hne _ _))).2 h
  refine hperm.eq_of_pairwise (fun a b _ _ hab hba => ?_) has hbs
  rw [not_before_of_before hab] at hba
  cases hba

namespace OrderedMap

variable {κ β γ : Type} [KeyOrder κ]

/-- What is read off the entries of a map, where there is something to read, with the keys. -/
def viewed (map : OrderedMap κ β) (view : κ → β → Option γ) : List (κ × γ) :=
  map.entries.filterMap fun entry => (view entry.1 entry.2).map (entry.1, ·)

theorem keysIncrease_viewed (map : OrderedMap κ β) (view : κ → β → Option γ) :
    KeysIncrease (map.viewed view) := by
  refine List.pairwise_filterMap.2 (map.increasing.imp ?_)
  intro a b hab c hc d hd
  obtain ⟨_, -, rfl⟩ := Option.map_eq_some_iff.1 hc
  obtain ⟨_, -, rfl⟩ := Option.map_eq_some_iff.1 hd
  exact hab

section Lookup

variable [DecidableEq κ]

/-- Maps with the same values under all keys are the same. -/
theorem eq_of_get?_eq {map₁ map₂ : OrderedMap κ β}
    (h : ∀ key, map₁.get? key = map₂.get? key) : map₁ = map₂ := by
  have hentries : map₁.entries = map₂.entries := by
    refine map₁.increasing.eq_of_mem_iff map₂.increasing ?_
    rintro ⟨key, value⟩
    rw [← get?_eq_some_iff, ← get?_eq_some_iff, h key]
  cases map₁
  cases map₂
  cases hentries
  rfl

theorem mem_viewed_iff (map : OrderedMap κ β) (view : κ → β → Option γ) (key : κ) (c : γ) :
    (key, c) ∈ map.viewed view ↔ (map.get? key).bind (view key) = some c := by
  simp only [viewed, List.mem_filterMap, Option.bind_eq_some_iff, get?_eq_some_iff,
    Option.map_eq_some_iff, Prod.mk.injEq]
  constructor
  · rintro ⟨⟨k, b⟩, hmem, _, hview, rfl, rfl⟩
    exact ⟨b, hmem, hview⟩
  · rintro ⟨b, hmem, hview⟩
    exact ⟨(key, b), hmem, c, hview, rfl, rfl⟩

/-- Two maps look the same if the same is seen at each key. -/
theorem viewed_congr {δ : Type} {map₁ : OrderedMap κ β} {map₂ : OrderedMap κ δ}
    {view₁ : κ → β → Option γ} {view₂ : κ → δ → Option γ}
    (h : ∀ key, (map₁.get? key).bind (view₁ key) = (map₂.get? key).bind (view₂ key)) :
    map₁.viewed view₁ = map₂.viewed view₂ := by
  refine (keysIncrease_viewed map₁ view₁).eq_of_mem_iff (keysIncrease_viewed map₂ view₂) ?_
  rintro ⟨key, c⟩
  rw [mem_viewed_iff, mem_viewed_iff, h key]

/-- A reading that is an empty list counts as none. -/
def nonempty (readings : List γ) : Option (List γ) :=
  match readings with
  | [] => none
  | reading :: rest => some (reading :: rest)

omit [DecidableEq κ] in
theorem flatMap_entries_eq (map : OrderedMap κ β) (read : κ → β → List γ) :
    map.entries.flatMap (fun entry => read entry.1 entry.2) =
      (map.viewed fun key value => nonempty (read key value)).flatMap (·.2) := by
  unfold viewed
  induction map.entries with
  | nil => rfl
  | cons entry rest ih =>
      rw [List.flatMap_cons, ih, List.filterMap_cons]
      cases hread : read entry.1 entry.2 with
      | nil => simp [nonempty, hread]
      | cons reading readings => simp [nonempty, hread]

omit [KeyOrder κ] [DecidableEq κ] in
theorem bind_nonempty (found : Option β) (read : β → List γ) :
    (found.bind fun value => nonempty (read value)) = nonempty ((found.map read).getD []) := by
  cases found with
  | none => rfl
  | some value => rfl

/-- Lists that are read off the entries of two maps are put together to the same list if the same is
read at each key. -/
theorem flatMap_entries_congr₂ {δ : Type} (read₁ : κ → β → List γ) (read₂ : κ → δ → List γ)
    {map₁ : OrderedMap κ β} {map₂ : OrderedMap κ δ}
    (h : ∀ key, ((map₁.get? key).map (read₁ key)).getD [] =
      ((map₂.get? key).map (read₂ key)).getD []) :
    map₁.entries.flatMap (fun entry => read₁ entry.1 entry.2) =
      map₂.entries.flatMap (fun entry => read₂ entry.1 entry.2) := by
  have hviewed : (map₁.viewed fun key value => nonempty (read₁ key value)) =
      map₂.viewed fun key value => nonempty (read₂ key value) :=
    viewed_congr fun key => by simp only [bind_nonempty, h key]
  rw [flatMap_entries_eq, flatMap_entries_eq, hviewed]

theorem flatMap_entries_congr (read : κ → β → List γ) {map₁ map₂ : OrderedMap κ β}
    (h : ∀ key, ((map₁.get? key).map (read key)).getD [] =
      ((map₂.get? key).map (read key)).getD []) :
    map₁.entries.flatMap (fun entry => read entry.1 entry.2) =
      map₂.entries.flatMap (fun entry => read entry.1 entry.2) :=
  flatMap_entries_congr₂ read read h

end Lookup

theorem exists_map_eq {α : Type} {f : α → γ} {cs : List γ} (h : ∀ c ∈ cs, ∃ a, f a = c) :
    ∃ as : List α, as.map f = cs := by
  induction cs with
  | nil => exact ⟨[], rfl⟩
  | cons c rest ih =>
      obtain ⟨⟨a, rfl⟩, hrest⟩ := List.forall_mem_cons.1 h
      obtain ⟨as, rfl⟩ := ih hrest
      exact ⟨a :: as, rfl⟩

section Renumbering

variable {f₁ f₂ : κ → κ} (hmono₁ : ∀ {x y}, before x y = true → before (f₁ x) (f₁ y) = true)
  (hmono₂ : ∀ {x y}, before x y = true → before (f₂ x) (f₂ y) = true)

include hmono₁ in
theorem injective_of_mono {x y : κ} (h : f₁ x = f₁ y) : x = y := by
  have hself : ∀ {x y}, f₁ x = f₁ y → before x y = false := by
    intro x y h
    cases hxy : before x y with
    | false => rfl
    | true =>
        have hbefore := hmono₁ hxy
        rw [h, KeyOrder.irrefl] at hbefore
        exact hbefore.symm
  exact connected (hself h) (hself h.symm)

include hmono₁ in
/-- An order-preserving numbering can be taken back. -/
theorem keysIncrease_of_map {entries : List (κ × γ)}
    (h : KeysIncrease (entries.map fun entry => (f₁ entry.1, entry.2))) : KeysIncrease entries := by
  refine (List.pairwise_map.1 h).imp ?_
  intro a b hab
  cases hba : before a.1 b.1 with
  | true => rfl
  | false =>
      -- Keys that are not ordered like their numbers would be equal or ordered the other way.
      exfalso
      cases hafter : before b.1 a.1 with
      | true =>
          have hreverse := hmono₁ hafter
          rw [not_before_of_before hab] at hreverse
          cases hreverse
      | false =>
          rw [connected hba hafter] at hab
          simp [KeyOrder.irrefl] at hab

include hmono₁ in
theorem keysIncrease_map {entries : List (κ × γ)} (h : KeysIncrease entries) :
    KeysIncrease (entries.map fun entry => (f₁ entry.1, entry.2)) :=
  List.pairwise_map.2 (h.imp hmono₁)

include hmono₁ hmono₂ in
/-- Two maps that read the same under two numberings of their keys, and nothing elsewhere, read the
same in the same order. -/
theorem map_viewed_eq_of_renumbered {map₁ map₂ : OrderedMap κ β} {view : κ → β → Option γ}
    (h : ∀ x c, (f₁ x, c) ∈ map₁.viewed view ↔ (f₂ x, c) ∈ map₂.viewed view)
    (hreached₁ : ∀ entry ∈ map₁.viewed view, ∃ x, f₁ x = entry.1)
    (hreached₂ : ∀ entry ∈ map₂.viewed view, ∃ x, f₂ x = entry.1) :
    (map₁.viewed view).map (·.2) = (map₂.viewed view).map (·.2) := by
  obtain ⟨entries, hentries⟩ : ∃ entries : List (κ × γ),
      entries.map (fun entry => (f₁ entry.1, entry.2)) = map₁.viewed view := by
    refine exists_map_eq fun entry hentry => ?_
    obtain ⟨x, hx⟩ := hreached₁ entry hentry
    exact ⟨(x, entry.2), by rw [hx]⟩
  have hincrease : KeysIncrease entries := by
    refine keysIncrease_of_map hmono₁ ?_
    rw [hentries]
    exact keysIncrease_viewed map₁ view
  -- Both views are renumberings of the same entries.
  have hentries₂ : entries.map (fun entry => (f₂ entry.1, entry.2)) = map₂.viewed view := by
    refine (keysIncrease_map hmono₂ hincrease).eq_of_mem_iff (keysIncrease_viewed map₂ view) ?_
    rintro ⟨key, c⟩
    constructor
    · intro hmem
      obtain ⟨⟨x, _⟩, hx, heq⟩ := List.mem_map.1 hmem
      obtain ⟨rfl, rfl⟩ := Prod.mk.inj heq
      rw [← h, ← hentries]
      exact List.mem_map.2 ⟨_, hx, rfl⟩
    · intro hmem
      obtain ⟨x, hx⟩ := hreached₂ _ hmem
      simp only at hx
      subst hx
      rw [← h, ← hentries] at hmem
      obtain ⟨⟨y, _⟩, hy, heq⟩ := List.mem_map.1 hmem
      obtain ⟨hkey, rfl⟩ := Prod.mk.inj heq
      have hxy : y = x := injective_of_mono hmono₁ hkey
      subst hxy
      exact List.mem_map.2 ⟨_, hy, rfl⟩
  rw [← hentries, ← hentries₂, List.map_map, List.map_map]
  rfl

end Renumbering

end OrderedMap

end CsvSchema
