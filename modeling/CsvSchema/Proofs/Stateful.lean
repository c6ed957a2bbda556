/-!
# Computations with a state

What a computation answers and the state it leaves, by the steps it is made of.  A computation keeps
a property of states if the property holds afterwards whenever it held before.  Two computations run
side by side under a relation if from related states they give the same answer and end in related
states again.
-/

namespace CsvSchema

namespace Stateful

variable {σ τ α β γ : Type}

@[simp] theorem pure_apply (answer : α) (s : σ) : (pure answer : StateM σ α) s = (answer, s) := rfl

@[simp] theorem bind_apply (action : StateM σ α) (next : α → StateM σ β) (s : σ) :
    (action >>= next) s = next (action s).1 (action s).2 := rfl

@[simp] theorem map_apply (f : α → β) (action : StateM σ α) (s : σ) :
    (f <$> action) s = (f (action s).1, (action s).2) := rfl

@[simp] theorem get_apply (s : σ) : (get : StateM σ σ) s = (s, s) := rfl

@[simp] theorem modify_apply (f : σ → σ) (s : σ) : (modify f : StateM σ Unit) s = ((), f s) := rfl

@[simp] theorem mapM_nil_apply (f : α → StateM σ β) (s : σ) :
    List.mapM f [] s = ([], s) := rfl

@[simp] theorem mapM_cons_apply (f : α → StateM σ β) (x : α) (xs : List α) (s : σ) :
    List.mapM f (x :: xs) s =
      ((f x s).1 :: (List.mapM f xs (f x s).2).1, (List.mapM f xs (f x s).2).2) := by
  rw [List.mapM_cons]
  rfl

theorem length_mapM (f : α → StateM σ β) (xs : List α) (s : σ) :
    (List.mapM f xs s).1.length = xs.length := by
  induction xs generalizing s with
  | nil => rfl
  | cons x xs ih => rw [mapM_cons_apply, List.length_cons, ih, List.length_cons]

/-- What computations made one after the other is made by one of them, from some state. -/
theorem exists_of_mem_flatten_mapM {f : α → StateM σ (List β)} {items : List α} {s : σ} {b : β}
    (h : b ∈ (items.mapM f s).1.flatten) : ∃ item ∈ items, ∃ t, b ∈ (f item t).1 := by
  induction items generalizing s with
  | nil => cases h
  | cons item rest ih =>
      rw [mapM_cons_apply, List.flatten_cons, List.mem_append] at h
      rcases h with hfirst | hrest
      · exact ⟨item, List.mem_cons_self, s, hfirst⟩
      · obtain ⟨other, hmem, hother⟩ := ih hrest
        exact ⟨other, List.mem_cons_of_mem _ hmem, hother⟩

theorem mapM_append_apply (f : α → StateM σ β) (xs ys : List α) (s : σ) :
    List.mapM f (xs ++ ys) s =
      ((List.mapM f xs s).1 ++ (List.mapM f ys (List.mapM f xs s).2).1,
        (List.mapM f ys (List.mapM f xs s).2).2) := by
  induction xs generalizing s with
  | nil => rfl
  | cons x xs ih => rw [List.cons_append, mapM_cons_apply, mapM_cons_apply, ih, List.cons_append]

/-- A computation keeps a property of states. -/
def Keeps (P : σ → Prop) (action : StateM σ α) : Prop := ∀ s, P s → P (action s).2

namespace Keeps

variable {P : σ → Prop}

theorem pure (answer : α) : Keeps P (pure answer) := fun _ h => h

theorem bind {action : StateM σ α} {next : α → StateM σ β} (h : Keeps P action)
    (hnext : ∀ a, Keeps P (next a)) : Keeps P (action >>= next) :=
  fun s hs => hnext (action s).1 (action s).2 (h s hs)

theorem mapM {f : α → StateM σ β} {items : List α} (h : ∀ item ∈ items, Keeps P (f item)) :
    Keeps P (items.mapM f) := by
  induction items with
  | nil => exact fun s hs => hs
  | cons item rest ih =>
      intro s hs
      rw [mapM_cons_apply]
      exact ih (fun item hmem => h item (List.mem_cons_of_mem _ hmem)) _
        (h item List.mem_cons_self s hs)

end Keeps

/-- Two computations run side by side under a relation of their states. -/
def Coupled (R : σ → τ → Prop) (left : StateM σ α) (right : StateM τ α) : Prop :=
  ∀ s t, R s t → (left s).1 = (right t).1 ∧ R (left s).2 (right t).2

namespace Coupled

variable {R : σ → τ → Prop}

theorem pure (answer : α) : Coupled R (pure answer) (pure answer) := fun _ _ h => ⟨rfl, h⟩

/-- What comes after two answers, one of which is translated, can be translated again. -/
theorem map_bind {δ : Type} {f : α → β} {g : γ → δ} {left : StateM σ α} {right : StateM τ β}
    {next₁ : α → StateM σ γ} {next₂ : β → StateM τ δ} (h : Coupled R (f <$> left) right)
    (hnext : ∀ a, Coupled R (g <$> next₁ a) (next₂ (f a))) :
    Coupled R (g <$> (left >>= next₁)) (right >>= next₂) := by
  intro s t hst
  obtain ⟨hanswer, hstates⟩ := h s t hst
  rw [map_apply] at hanswer hstates
  rw [bind_apply, ← hanswer]
  exact hnext _ _ _ hstates

theorem map_mapM {g : α → β} {f₁ : γ → StateM σ α} {f₂ : γ → StateM τ β} {items : List γ}
    (h : ∀ item, Coupled R (g <$> f₁ item) (f₂ item)) :
    Coupled R (List.map g <$> items.mapM f₁) (items.mapM f₂) := by
  induction items with
  | nil => exact fun s t hst => ⟨rfl, hst⟩
  | cons item rest ih =>
      intro s t hst
      obtain ⟨hanswer, hstates⟩ := h item s t hst
      obtain ⟨hanswers, hends⟩ := ih _ _ hstates
      simp only [map_apply, List.map_cons, mapM_cons_apply] at hanswer hanswers hends ⊢
      rw [hanswer, hanswers]
      exact ⟨rfl, hends⟩

theorem bind {left : StateM σ α} {right : StateM τ α} {next₁ : α → StateM σ β}
    {next₂ : α → StateM τ β} (h : Coupled R left right)
    (hnext : ∀ a, Coupled R (next₁ a) (next₂ a)) :
    Coupled R (left >>= next₁) (right >>= next₂) :=
  map_bind (f := id) (g := id) h hnext

theorem mapM {f₁ : γ → StateM σ β} {f₂ : γ → StateM τ β} {items : List γ}
    (h : ∀ item, Coupled R (f₁ item) (f₂ item)) : Coupled R (items.mapM f₁) (items.mapM f₂) := by
  have hitems : Coupled R (List.map id <$> items.mapM f₁) (items.mapM f₂) := map_mapM h
  rwa [List.map_id_fun, id_map] at hitems

theorem mapM_map {δ : Type} {make : γ → δ} {f₁ : γ → StateM σ β} {f₂ : δ → StateM τ β}
    {items : List γ} (h : ∀ item, Coupled R (f₁ item) (f₂ (make item))) :
    Coupled R (items.mapM f₁) ((items.map make).mapM f₂) := by
  rw [List.mapM_map]
  exact mapM h

theorem refl (action : StateM σ α) : Coupled Eq action action := by
  rintro s _ rfl
  exact ⟨rfl, rfl⟩

/-- Side by side from equal states, two computations are the same. -/
theorem eq {left right : StateM σ α} (h : Coupled Eq left right) : left = right :=
  funext fun s => Prod.ext (h s s rfl).1 (h s s rfl).2

theorem map (f : α → β) {left : StateM σ α} {right : StateM τ α} (h : Coupled R left right) :
    Coupled R (f <$> left) (f <$> right) :=
  fun s t hst => ⟨congrArg f (h s t hst).1, (h s t hst).2⟩

theorem map_mapM_map {δ : Type} {make : γ → δ} {g : α → β} {f₁ : γ → StateM σ α}
    {f₂ : δ → StateM τ β} {items : List γ}
    (h : ∀ item, Coupled R (g <$> f₁ item) (f₂ (make item))) :
    Coupled R (List.map g <$> items.mapM f₁) ((items.map make).mapM f₂) := by
  rw [List.mapM_map]
  exact map_mapM h

end Coupled

end Stateful

end CsvSchema
