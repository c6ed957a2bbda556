import CsvSchema.Schema.Rendering

/-!
# Slots and their renaming

The slots of a check are listed in the order in which they stand in its text.  Renaming them changes
nothing that can be read in the text of a check, and a renaming acts on a check by what it does to
the slots of that check.
-/

namespace CsvSchema

namespace Atom

/-- The slot that an atomic check remembers earlier records in, if it has one. -/
def slots : Atom → List Nat
  | unique _ slot => [slot]
  | identical slot => [slot]
  | integrity _ _ _ slot => [slot]
  | _ => []

/-- An atomic check with another slot. -/
def mapSlots (f : Nat → Nat) : Atom → Atom
  | unique columns slot => unique columns (f slot)
  | identical slot => identical (f slot)
  | integrity folder subfolder rule slot => integrity folder subfolder rule (f slot)
  | atom => atom

end Atom

mutual

/-- The slots of a check. -/
def Check.slots : Check → List Nat
  | .atom atom => atom.slots
  | .or checks => checkSlots checks
  | .and checks => checkSlots checks
  | .parenthesized checks => checkSlots checks
  | .conditional condition clause otherwise =>
      condition.slots ++ checkSlots clause ++ otherwiseSlots otherwise
  | .switch cases otherwise => caseSlots cases ++ otherwiseSlots otherwise
  | .single _ check => check.slots

/-- The slots of a case. -/
def SwitchCase.slots : SwitchCase → List Nat
  | .mk condition clause => condition.slots ++ checkSlots clause

/-- The slots of some checks. -/
def checkSlots : List Check → List Nat
  | [] => []
  | check :: rest => check.slots ++ checkSlots rest

/-- The slots of a clause that may be missing. -/
def otherwiseSlots : Option (List Check) → List Nat
  | none => []
  | some checks => checkSlots checks

/-- The slots of some cases. -/
def caseSlots : List SwitchCase → List Nat
  | [] => []
  | switchCase :: rest => switchCase.slots ++ caseSlots rest

end

mutual

/-- A check with other slots. -/
def Check.mapSlots (f : Nat → Nat) : Check → Check
  | .atom atom => .atom (atom.mapSlots f)
  | .or checks => .or (mapCheckSlots f checks)
  | .and checks => .and (mapCheckSlots f checks)
  | .parenthesized checks => .parenthesized (mapCheckSlots f checks)
  | .conditional condition clause otherwise =>
      .conditional (condition.mapSlots f) (mapCheckSlots f clause) (mapOtherwiseSlots f otherwise)
  | .switch cases otherwise => .switch (mapCaseSlots f cases) (mapOtherwiseSlots f otherwise)
  | .single column check => .single column (check.mapSlots f)

/-- A case with other slots. -/
def SwitchCase.mapSlots (f : Nat → Nat) : SwitchCase → SwitchCase
  | .mk condition clause => .mk (condition.mapSlots f) (mapCheckSlots f clause)

/-- Checks with other slots. -/
def mapCheckSlots (f : Nat → Nat) : List Check → List Check
  | [] => []
  | check :: rest => check.mapSlots f :: mapCheckSlots f rest

/-- A clause that may be missing with other slots. -/
def mapOtherwiseSlots (f : Nat → Nat) : Option (List Check) → Option (List Check)
  | none => none
  | some checks => some (mapCheckSlots f checks)

/-- Cases with other slots. -/
def mapCaseSlots (f : Nat → Nat) : List SwitchCase → List SwitchCase
  | [] => []
  | switchCase :: rest => switchCase.mapSlots f :: mapCaseSlots f rest

end

theorem checkSlots_eq_flatMap (checks : List Check) :
    checkSlots checks = checks.flatMap Check.slots := by
  induction checks with
  | nil => rfl
  | cons check rest ih => rw [checkSlots, ih, List.flatMap_cons]

theorem caseSlots_eq_flatMap (cases : List SwitchCase) :
    caseSlots cases = cases.flatMap SwitchCase.slots := by
  induction cases with
  | nil => rfl
  | cons switchCase rest ih => rw [caseSlots, ih, List.flatMap_cons]

theorem mapCheckSlots_eq_map (f : Nat → Nat) (checks : List Check) :
    mapCheckSlots f checks = checks.map (Check.mapSlots f) := by
  induction checks with
  | nil => rfl
  | cons check rest ih => rw [mapCheckSlots, ih, List.map_cons]

theorem mapCaseSlots_eq_map (f : Nat → Nat) (cases : List SwitchCase) :
    mapCaseSlots f cases = cases.map (SwitchCase.mapSlots f) := by
  induction cases with
  | nil => rfl
  | cons switchCase rest ih => rw [mapCaseSlots, ih, List.map_cons]

section Congruence

variable {f g : Nat → Nat}

theorem Atom.mapSlots_congr (atom : Atom) (h : ∀ slot ∈ atom.slots, f slot = g slot) :
    atom.mapSlots f = atom.mapSlots g := by
  cases atom with
  | unique columns slot => simp [mapSlots, h slot (by simp [slots])]
  | identical slot => simp [mapSlots, h slot (by simp [slots])]
  | integrity folder subfolder rule slot => simp [mapSlots, h slot (by simp [slots])]
  | _ => rfl

mutual

/-- Only what a renaming does to the slots of a check matters. -/
theorem Check.mapSlots_congr (check : Check) (h : ∀ slot ∈ check.slots, f slot = g slot) :
    check.mapSlots f = check.mapSlots g := by
  cases check with
  | atom atom => simp only [Check.mapSlots, atom.mapSlots_congr h]
  | or checks => simp only [Check.mapSlots, mapCheckSlots_congr checks h]
  | and checks => simp only [Check.mapSlots, mapCheckSlots_congr checks h]
  | parenthesized checks => simp only [Check.mapSlots, mapCheckSlots_congr checks h]
  | conditional condition clause otherwise =>
      simp only [Check.slots, List.forall_mem_append] at h
      simp only [Check.mapSlots, condition.mapSlots_congr h.1.1, mapCheckSlots_congr clause h.1.2,
        mapOtherwiseSlots_congr otherwise h.2]
  | switch cases otherwise =>
      simp only [Check.slots, List.forall_mem_append] at h
      simp only [Check.mapSlots, mapCaseSlots_congr cases h.1,
        mapOtherwiseSlots_congr otherwise h.2]
  | single column check => simp only [Check.mapSlots, check.mapSlots_congr h]

theorem SwitchCase.mapSlots_congr (switchCase : SwitchCase)
    (h : ∀ slot ∈ switchCase.slots, f slot = g slot) :
    switchCase.mapSlots f = switchCase.mapSlots g := by
  cases switchCase with
  | mk condition clause =>
      simp only [SwitchCase.slots, List.forall_mem_append] at h
      simp only [SwitchCase.mapSlots, condition.mapSlots_congr h.1, mapCheckSlots_congr clause h.2]

theorem mapCheckSlots_congr (checks : List Check)
    (h : ∀ slot ∈ checkSlots checks, f slot = g slot) :
    mapCheckSlots f checks = mapCheckSlots g checks := by
  cases checks with
  | nil => rfl
  | cons check rest =>
      simp only [checkSlots, List.forall_mem_append] at h
      simp only [mapCheckSlots, check.mapSlots_congr h.1, mapCheckSlots_congr rest h.2]

theorem mapOtherwiseSlots_congr (otherwise : Option (List Check))
    (h : ∀ slot ∈ otherwiseSlots otherwise, f slot = g slot) :
    mapOtherwiseSlots f otherwise = mapOtherwiseSlots g otherwise := by
  cases otherwise with
  | none => rfl
  | some checks => simp only [mapOtherwiseSlots, mapCheckSlots_congr checks h]

theorem mapCaseSlots_congr (cases : List SwitchCase)
    (h : ∀ slot ∈ caseSlots cases, f slot = g slot) :
    mapCaseSlots f cases = mapCaseSlots g cases := by
  match cases with
  | [] => rfl
  | switchCase :: rest =>
      simp only [caseSlots, List.forall_mem_append] at h
      simp only [mapCaseSlots, switchCase.mapSlots_congr h.1, mapCaseSlots_congr rest h.2]

end

end Congruence

theorem Atom.mapSlots_id (atom : Atom) : atom.mapSlots id = atom := by
  cases atom <;> rfl

mutual

theorem Check.mapSlots_id (check : Check) : check.mapSlots id = check := by
  cases check with
  | atom atom => simp only [Check.mapSlots, atom.mapSlots_id]
  | or checks => simp only [Check.mapSlots, mapCheckSlots_id checks]
  | and checks => simp only [Check.mapSlots, mapCheckSlots_id checks]
  | parenthesized checks => simp only [Check.mapSlots, mapCheckSlots_id checks]
  | conditional condition clause otherwise =>
      simp only [Check.mapSlots, condition.mapSlots_id, mapCheckSlots_id clause,
        mapOtherwiseSlots_id otherwise]
  | switch cases otherwise =>
      simp only [Check.mapSlots, mapCaseSlots_id cases, mapOtherwiseSlots_id otherwise]
  | single column check => simp only [Check.mapSlots, check.mapSlots_id]

theorem SwitchCase.mapSlots_id (switchCase : SwitchCase) : switchCase.mapSlots id = switchCase := by
  cases switchCase with
  | mk condition clause =>
      simp only [SwitchCase.mapSlots, condition.mapSlots_id, mapCheckSlots_id clause]

theorem mapCheckSlots_id (checks : List Check) : mapCheckSlots id checks = checks := by
  cases checks with
  | nil => rfl
  | cons check rest => simp only [mapCheckSlots, check.mapSlots_id, mapCheckSlots_id rest]

theorem mapOtherwiseSlots_id (otherwise : Option (List Check)) :
    mapOtherwiseSlots id otherwise = otherwise := by
  cases otherwise with
  | none => rfl
  | some checks => simp only [mapOtherwiseSlots, mapCheckSlots_id checks]

theorem mapCaseSlots_id (cases : List SwitchCase) : mapCaseSlots id cases = cases := by
  match cases with
  | [] => rfl
  | switchCase :: rest => simp only [mapCaseSlots, switchCase.mapSlots_id, mapCaseSlots_id rest]

end

section Composition

variable (f g : Nat → Nat)

theorem Atom.mapSlots_mapSlots (atom : Atom) :
    (atom.mapSlots f).mapSlots g = atom.mapSlots fun slot => g (f slot) := by
  cases atom <;> rfl

mutual

/-- Two renamings one after the other are one renaming. -/
theorem Check.mapSlots_mapSlots (check : Check) :
    (check.mapSlots f).mapSlots g = check.mapSlots fun slot => g (f slot) := by
  cases check with
  | atom atom => simp only [Check.mapSlots, atom.mapSlots_mapSlots]
  | or checks => simp only [Check.mapSlots, mapCheckSlots_mapCheckSlots checks]
  | and checks => simp only [Check.mapSlots, mapCheckSlots_mapCheckSlots checks]
  | parenthesized checks => simp only [Check.mapSlots, mapCheckSlots_mapCheckSlots checks]
  | conditional condition clause otherwise =>
      simp only [Check.mapSlots, condition.mapSlots_mapSlots, mapCheckSlots_mapCheckSlots clause,
        mapOtherwiseSlots_mapOtherwiseSlots otherwise]
  | switch cases otherwise =>
      simp only [Check.mapSlots, mapCaseSlots_mapCaseSlots cases,
        mapOtherwiseSlots_mapOtherwiseSlots otherwise]
  | single column check => simp only [Check.mapSlots, check.mapSlots_mapSlots]

theorem SwitchCase.mapSlots_mapSlots (switchCase : SwitchCase) :
    (switchCase.mapSlots f).mapSlots g = switchCase.mapSlots fun slot => g (f slot) := by
  cases switchCase with
  | mk condition clause =>
      simp only [SwitchCase.mapSlots, condition.mapSlots_mapSlots,
        mapCheckSlots_mapCheckSlots clause]

theorem mapCheckSlots_mapCheckSlots (checks : List Check) :
    mapCheckSlots g (mapCheckSlots f checks) = mapCheckSlots (fun slot => g (f slot)) checks := by
  cases checks with
  | nil => rfl
  | cons check rest =>
      simp only [mapCheckSlots, check.mapSlots_mapSlots, mapCheckSlots_mapCheckSlots rest]

theorem mapOtherwiseSlots_mapOtherwiseSlots (otherwise : Option (List Check)) :
    mapOtherwiseSlots g (mapOtherwiseSlots f otherwise) =
      mapOtherwiseSlots (fun slot => g (f slot)) otherwise := by
  cases otherwise with
  | none => rfl
  | some checks => simp only [mapOtherwiseSlots, mapCheckSlots_mapCheckSlots checks]

theorem mapCaseSlots_mapCaseSlots (cases : List SwitchCase) :
    mapCaseSlots g (mapCaseSlots f cases) = mapCaseSlots (fun slot => g (f slot)) cases := by
  match cases with
  | [] => rfl
  | switchCase :: rest =>
      simp only [mapCaseSlots, switchCase.mapSlots_mapSlots, mapCaseSlots_mapCaseSlots rest]

end

end Composition

section Slots

variable (f : Nat → Nat)

theorem Atom.slots_mapSlots (atom : Atom) : (atom.mapSlots f).slots = atom.slots.map f := by
  cases atom <;> rfl

mutual

/-- The slots of a renamed check, in the same order. -/
theorem Check.slots_mapSlots (check : Check) : (check.mapSlots f).slots = check.slots.map f := by
  cases check with
  | atom atom => simp only [Check.mapSlots, Check.slots, atom.slots_mapSlots]
  | or checks => simp only [Check.mapSlots, Check.slots, checkSlots_mapCheckSlots checks]
  | and checks => simp only [Check.mapSlots, Check.slots, checkSlots_mapCheckSlots checks]
  | parenthesized checks => simp only [Check.mapSlots, Check.slots, checkSlots_mapCheckSlots checks]
  | conditional condition clause otherwise =>
      simp only [Check.mapSlots, Check.slots, condition.slots_mapSlots,
        checkSlots_mapCheckSlots clause, otherwiseSlots_mapOtherwiseSlots otherwise,
        List.map_append]
  | switch cases otherwise =>
      simp only [Check.mapSlots, Check.slots, caseSlots_mapCaseSlots cases,
        otherwiseSlots_mapOtherwiseSlots otherwise, List.map_append]
  | single column check => simp only [Check.mapSlots, Check.slots, check.slots_mapSlots]

theorem checkSlots_mapCheckSlots (checks : List Check) :
    checkSlots (mapCheckSlots f checks) = (checkSlots checks).map f := by
  cases checks with
  | nil => rfl
  | cons check rest =>
      simp only [mapCheckSlots, checkSlots, check.slots_mapSlots, checkSlots_mapCheckSlots rest,
        List.map_append]

theorem otherwiseSlots_mapOtherwiseSlots (otherwise : Option (List Check)) :
    otherwiseSlots (mapOtherwiseSlots f otherwise) = (otherwiseSlots otherwise).map f := by
  cases otherwise with
  | none => rfl
  | some checks => simp only [mapOtherwiseSlots, otherwiseSlots, checkSlots_mapCheckSlots checks]

theorem caseSlots_mapCaseSlots (cases : List SwitchCase) :
    caseSlots (mapCaseSlots f cases) = (caseSlots cases).map f := by
  match cases with
  | [] => rfl
  | .mk condition clause :: rest =>
      simp only [mapCaseSlots, SwitchCase.mapSlots, caseSlots, SwitchCase.slots,
        condition.slots_mapSlots, checkSlots_mapCheckSlots clause, caseSlots_mapCaseSlots rest,
        List.map_append]

end

end Slots

section Text

variable (f : Nat → Nat)

theorem Atom.text_mapSlots (atom : Atom) : (atom.mapSlots f).text = atom.text := by
  cases atom <;> rfl

mutual

/-- Slots are not written. -/
theorem Check.text_mapSlots (check : Check) : (check.mapSlots f).text = check.text := by
  cases check with
  | atom atom => simp only [Check.mapSlots, Check.text, atom.text_mapSlots]
  | or checks => simp only [Check.mapSlots, Check.text, checkTexts_mapCheckSlots checks]
  | and checks => simp only [Check.mapSlots, Check.text, checkTexts_mapCheckSlots checks]
  | parenthesized checks => simp only [Check.mapSlots, Check.text, checkTexts_mapCheckSlots checks]
  | conditional condition clause otherwise =>
      simp only [Check.mapSlots, Check.text, condition.text_mapSlots,
        checkTexts_mapCheckSlots clause, otherwiseTexts_mapOtherwiseSlots otherwise]
  | switch cases otherwise =>
      simp only [Check.mapSlots, Check.text, caseTexts_mapCaseSlots cases,
        otherwiseTexts_mapOtherwiseSlots otherwise]
  | single column check =>
      cases column with
      | none => simp only [Check.mapSlots, Check.text, check.text_mapSlots]
      | some column => simp only [Check.mapSlots, Check.text, check.text_mapSlots]

theorem checkTexts_mapCheckSlots (checks : List Check) :
    checkTexts (mapCheckSlots f checks) = checkTexts checks := by
  cases checks with
  | nil => rfl
  | cons check rest =>
      simp only [mapCheckSlots, checkTexts, check.text_mapSlots, checkTexts_mapCheckSlots rest]

theorem otherwiseTexts_mapOtherwiseSlots (otherwise : Option (List Check)) :
    otherwiseTexts (mapOtherwiseSlots f otherwise) = otherwiseTexts otherwise := by
  cases otherwise with
  | none => rfl
  | some checks =>
      simp only [mapOtherwiseSlots, otherwiseTexts, checkTexts_mapCheckSlots checks]

theorem caseTexts_mapCaseSlots (cases : List SwitchCase) :
    caseTexts (mapCaseSlots f cases) = caseTexts cases := by
  match cases with
  | [] => rfl
  | .mk condition clause :: rest =>
      simp only [mapCaseSlots, SwitchCase.mapSlots, caseTexts, condition.text_mapSlots,
        checkTexts_mapCheckSlots clause, caseTexts_mapCaseSlots rest]

end

end Text

end CsvSchema
