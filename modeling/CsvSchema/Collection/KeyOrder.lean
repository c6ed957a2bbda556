import CsvSchema.Severity

/-!
# Orders on keys

Keys are compared by a decidable strict order in which any two different keys are comparable.
Numbers are ordered as numbers and characters by code point; lists are ordered by their first
difference, where an end comes before anything else, and strings as lists of characters.
-/

namespace CsvSchema

/-- A strict total order. -/
class KeyOrder (κ : Type) where
  before : κ → κ → Bool
  irrefl : ∀ a, before a a = false
  trans : ∀ {a b c}, before a b = true → before b c = true → before a c = true
  connected : ∀ {a b}, before a b = false → before b a = false → a = b

namespace KeyOrder

theorem ne_of_before {κ : Type} [KeyOrder κ] {a b : κ} (h : before a b = true) : a ≠ b := by
  rintro rfl
  simp [irrefl] at h

theorem not_before_of_before {κ : Type} [KeyOrder κ] {a b : κ} (h : before a b = true) :
    before b a = false := by
  cases hba : before b a with
  | false => rfl
  | true => exact absurd (trans h hba) (by simp [irrefl])

/-- An order on the codes of keys orders the keys. -/
@[reducible] def ofCode {κ ι : Type} [KeyOrder ι] (code : κ → ι)
    (injective : ∀ {a b}, code a = code b → a = b) : KeyOrder κ where
  before a b := before (code a) (code b)
  irrefl a := irrefl (code a)
  trans hab hbc := trans hab hbc
  connected hab hba := injective (connected hab hba)

instance : KeyOrder Nat where
  before a b := a < b
  irrefl := by simp
  trans := by simp only [decide_eq_true_eq]; omega
  connected := by simp only [decide_eq_false_iff_not]; omega

instance : KeyOrder Char := ofCode Char.toNat fun h => Char.toNat_inj.1 h

instance : KeyOrder Severity := ofCode
  (fun | .error => 0 | .warning => 1) fun {a b} h => by cases a <;> cases b <;> simp_all

/-- Whether a list comes before another one. -/
def listBefore {κ : Type} [KeyOrder κ] : List κ → List κ → Bool
  | _, [] => false
  | [], _ :: _ => true
  | a :: as, b :: bs => before a b || (!before b a && listBefore as bs)

/-- One list comes before another one at the first of their keys, or behind a key that is the
same. -/
theorem listBefore_cons_iff {κ : Type} [KeyOrder κ] {a b : κ} {as bs : List κ} :
    listBefore (a :: as) (b :: bs) = true ↔
      before a b = true ∨ a = b ∧ listBefore as bs = true := by
  simp only [listBefore, Bool.or_eq_true, Bool.and_eq_true, Bool.not_eq_true']
  constructor
  · rintro (hab | ⟨hba, hrest⟩)
    · exact .inl hab
    · cases hab : before a b with
      | true => exact .inl rfl
      | false => exact .inr ⟨connected hab hba, hrest⟩
  · rintro (hab | ⟨rfl, hrest⟩)
    · exact .inl hab
    · exact .inr ⟨irrefl a, hrest⟩

theorem listBefore_irrefl {κ : Type} [KeyOrder κ] (as : List κ) : listBefore as as = false := by
  induction as with
  | nil => rfl
  | cons a as ih => simp [listBefore, irrefl, ih]

theorem listBefore_connected {κ : Type} [KeyOrder κ] {as bs : List κ}
    (hab : listBefore as bs = false) (hba : listBefore bs as = false) : as = bs := by
  induction as generalizing bs with
  | nil => cases bs <;> simp_all [listBefore]
  | cons a as ih =>
      cases bs with
      | nil => simp [listBefore] at hba
      | cons b bs =>
          simp only [listBefore, Bool.or_eq_false_iff, Bool.and_eq_false_iff] at hab hba
          have h := connected hab.1 hba.1
          subst h
          simp only [irrefl] at hab hba
          rw [ih (by simpa using hab) (by simpa using hba)]

theorem listBefore_trans {κ : Type} [KeyOrder κ] {as bs cs : List κ}
    (hab : listBefore as bs = true) (hbc : listBefore bs cs = true) :
    listBefore as cs = true := by
  induction as generalizing bs cs with
  | nil =>
      cases cs with
      | nil => cases bs <;> simp [listBefore] at hbc
      | cons c cs => rfl
  | cons a as ih =>
      cases bs with
      | nil => simp [listBefore] at hab
      | cons b bs =>
          cases cs with
          | nil => simp [listBefore] at hbc
          | cons c cs =>
              rw [listBefore_cons_iff] at hab hbc ⊢
              -- The lists differ where the first of the two differences is.
              rcases hab with hab | ⟨rfl, hab⟩
              · rcases hbc with hbc | ⟨rfl, -⟩
                · exact .inl (trans hab hbc)
                · exact .inl hab
              · rcases hbc with hbc | ⟨rfl, hbc⟩
                · exact .inl hbc
                · exact .inr ⟨rfl, ih hab hbc⟩

instance {κ : Type} [KeyOrder κ] : KeyOrder (List κ) where
  before := listBefore
  irrefl := listBefore_irrefl
  trans := listBefore_trans
  connected := listBefore_connected

instance : KeyOrder String := ofCode String.toList fun h => String.toList_inj.1 h

end KeyOrder

end CsvSchema
