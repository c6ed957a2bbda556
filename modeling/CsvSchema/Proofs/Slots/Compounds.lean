import CsvSchema.Proofs.Slots.Leaves

/-!
# Slots of the parts of a node

What a node is made into has the slots of the parts that it is made of, in their order, and after
them those that it takes for itself; and it does not matter which numbers the slots have.  This is
`Respects`, here for the nodes that make checks of checks.
-/

namespace CsvSchema

open Fallible

/-- A node that takes `own` slots, starting with `slot`, made some parts into one and treats slots
as names.  Only a node of the document may be made of columns. -/
structure Respects (reduce : Nat → List Part → Except Fault Part) (own : Nat) (ofDocument : Bool)
    (slot : Nat) (parts : List Part) (part : Part) : Prop where
  slots : part.slots = parts.flatMap Part.slots ++ List.range' slot own
  total : ∀ total ∈ part.total?, total = slot ∨ ∃ p ∈ parts, total ∈ p.total?
  inner : ofDocument = false → ∀ p ∈ parts, p.isDocument = false
  natural : ∀ f, reduce (f slot) (parts.map (Part.mapSlots f)) = .ok (part.mapSlots f)

variable {parts : List Part} {slot : Nat} {document : Bool}

theorem respects_of_allPlain (reduce : List Part → Except Fault Part) {part : Part}
    (h : reduce parts = .ok part) (hparts : AllPlain parts) (hslots : part.slots = [])
    (htotal : part.total? = none) :
    Respects (fun _ => reduce) 0 document slot parts part where
  slots := by rw [hslots, slots_of_allPlain hparts]; rfl
  total := by simp [htotal]
  inner _ p hp := Part.isDocument_of_isPlain (hparts p hp)
  natural f := by
    rw [map_mapSlots_of_allPlain f hparts, Part.mapSlots_of_slots_eq_nil f hslots htotal]
    exact h

/-- What is read into a plain part. -/
theorem respects_of_map_allPlain {α : Type} {reduce : List Part → Except Fault α} {make : α → Part}
    {part : Part} (h : (reduce parts).map make = .ok part)
    (hparts : ∀ a, reduce parts = .ok a → AllPlain parts) (hmake : ∀ a, (make a).isPlain = true) :
    Respects (fun _ parts => (reduce parts).map make) 0 document slot parts part := by
  obtain ⟨a, ha, rfl⟩ := map_eq_ok.1 h
  exact respects_of_allPlain (fun parts => (reduce parts).map make) h (hparts a ha)
    (Part.slots_of_isPlain (hmake a)) (Part.total?_of_isPlain (hmake a))

/-- A node that is an atomic check takes the slots of the check, and has no others. -/
theorem respects_of_isAtomic {kind : NodeKind} {part : Part} (hkind : kind.isAtomic = true)
    (h : kind.reduce slot parts = .ok part) :
    Respects (fun slot => NodeKind.reduce slot kind) kind.slots document slot parts part := by
  obtain ⟨atom, hatom, rfl⟩ := NodeKind.readsAtom_of_reduce hkind h
  have hparts := hatom.allPlain
  refine ⟨?_, by simp [Part.total?], fun _ p hp => Part.isDocument_of_isPlain (hparts p hp),
    fun f => ?_⟩
  · rw [slots_of_allPlain hparts, List.nil_append, Part.slots_check, Check.slots, hatom.slots_eq]
  · rw [map_mapSlots_of_allPlain f hparts, hatom.reduce_mapSlots h, Part.mapSlots_check,
      Check.mapSlots]

theorem respects_of_map {α : Type} {reduce : Nat → List Part → Except Fault α} {make : α → Part}
    {own : Nat} {part : Part} (h : (reduce slot parts).map make = .ok part)
    (hmake : ∀ a, reduce slot parts = .ok a →
      Respects (fun slot parts => (reduce slot parts).map make) own document slot parts (make a)) :
    Respects (fun slot parts => (reduce slot parts).map make) own document slot parts part := by
  obtain ⟨a, ha, rfl⟩ := map_eq_ok.1 h
  exact hmake a ha

/-- Some parts are split where their beginning ends that is made of one kind of thing. -/
structure Splits {α : Type} (make : α → Part) (split : List Part → List α × List Part) : Prop where
  cons : ∀ a rest, split (make a :: rest) = (a :: (split rest).1, (split rest).2)
  stop : ∀ rest, (∀ a tail, rest ≠ make a :: tail) → split rest = ([], rest)

namespace Splits

variable {α : Type} {make : α → Part} {split : List Part → List α × List Part}
  (h : Splits make split)
include h

theorem append (as : List α) {rest : List Part} (hrest : ∀ a tail, rest ≠ make a :: tail) :
    split (as.map make ++ rest) = (as, rest) := by
  induction as with
  | nil => exact h.stop rest hrest
  | cons a as ih => rw [List.map_cons, List.cons_append, h.cons, ih]

theorem eq_append {as : List α} {rest : List Part} (hsplit : split parts = (as, rest)) :
    parts = as.map make ++ rest := by
  induction parts generalizing as with
  | nil =>
      rw [h.stop [] (by simp)] at hsplit
      cases hsplit
      rfl
  | cons part parts ih =>
      by_cases hmake : ∃ a, make a = part
      · obtain ⟨a, rfl⟩ := hmake
        rw [h.cons] at hsplit
        obtain ⟨rfl, rfl⟩ := Prod.mk.inj hsplit
        rw [List.map_cons, List.cons_append, ← ih rfl]
      · rw [h.stop _ fun a tail heq => hmake ⟨a, (List.cons.inj heq).1.symm⟩] at hsplit
        cases hsplit
        rfl

end Splits

section Checks

variable {check : Check}

theorem NodeKind.reduce_check_eq_ok_iff {part : Part} :
    NodeKind.check.reduce slot parts = .ok part ↔
      ∃ check, parts = [.check check] ∧ part = .check check := by
  match parts with
  | [] => simp [reduce, wrongCount]
  | [inner] =>
      simp only [reduce, map_eq_ok, Part.asCheck_eq_ok_iff, List.cons.injEq, and_true]
      exact exists_congr fun check => and_congr_right fun _ => eq_comm
  | _ :: _ :: _ => simp [reduce, wrongCount]

theorem respects_reduce_check {part : Part} (h : NodeKind.check.reduce slot parts = .ok part) :
    Respects (fun slot => NodeKind.reduce slot .check) 0 document slot parts part := by
  obtain ⟨check, rfl, rfl⟩ := NodeKind.reduce_check_eq_ok_iff.1 h
  exact ⟨by simp, by simp [Part.total?], by simp, fun f => rfl⟩

/-- The column in front of a check, if there is one, is part of the node. -/
theorem reduceSingle_eq_ok_iff :
    reduceSingle parts = .ok check ↔
      ∃ column inner, check = .single column inner ∧
        parts = (column.map fun name => Part.operand (.column name)).toList ++ [.check inner] := by
  constructor
  · intro h
    unfold reduceSingle at h
    split at h
    · simp only [bind_eq_ok, pure_eq_ok, Part.asCheck_eq_ok_iff] at h
      obtain ⟨inner, rfl, rfl⟩ := h
      exact ⟨none, inner, rfl, rfl⟩
    · simp only [bind_eq_ok, pure_eq_ok, Part.asCheck_eq_ok_iff, Part.asReference_eq_ok_iff] at h
      obtain ⟨name, rfl, inner, rfl, rfl⟩ := h
      exact ⟨some name, inner, rfl, rfl⟩
    · cases h
  · rintro ⟨column, inner, rfl, rfl⟩
    cases column <;> rfl

theorem respects_reduceSingle (h : reduceSingle parts = .ok check) :
    Respects (fun _ parts => (reduceSingle parts).map .check) 0 document slot parts
      (.check check) := by
  obtain ⟨column, inner, rfl, rfl⟩ := reduceSingle_eq_ok_iff.1 h
  cases column with
  | none => exact ⟨by simp [Check.slots], by simp [Part.total?], by simp, fun f => rfl⟩
  | some name =>
      exact ⟨by simp [Part.slots, Check.slots], by simp [Part.total?], by simp [Part.isDocument],
        fun f => rfl⟩

theorem slots_map_check (checks : List Check) :
    (checks.map Part.check).flatMap Part.slots = checkSlots checks := by
  rw [checkSlots_eq_flatMap, List.flatMap_map]
  rfl

theorem map_mapSlots_map_check (f : Nat → Nat) (checks : List Check) :
    (checks.map Part.check).map (Part.mapSlots f) = (mapCheckSlots f checks).map .check := by
  rw [mapCheckSlots_eq_map, List.map_map, List.map_map]
  rfl

theorem mapM_asCheck_eq_ok_iff (checks : List Check) :
    parts.mapM Part.asCheck = .ok checks ↔ parts = checks.map .check :=
  mapM_eq_ok_iff Part.asCheck_eq_ok_iff

theorem isDocument_map_check {checks : List Check} :
    ∀ p ∈ checks.map Part.check, p.isDocument = false := by
  simp [Part.isDocument]

/-- What all nodes share that are made of a list of checks. -/
theorem respects_of_checks {reduce : List Part → Except Fault Part} {checks : List Check}
    (make : List Check → Part) (hslots : (make checks).slots = checkSlots checks)
    (htotal : (make checks).total? = none)
    (hmake : ∀ f, (make checks).mapSlots f = make (mapCheckSlots f checks))
    (h : ∀ f, reduce ((mapCheckSlots f checks).map .check) = .ok (make (mapCheckSlots f checks))) :
    Respects (fun _ => reduce) 0 document slot (checks.map .check) (make checks) where
  slots := by rw [hslots, slots_map_check]; exact (List.append_nil _).symm
  total := by simp [htotal]
  inner _ := isDocument_map_check
  natural f := by rw [map_mapSlots_map_check, hmake, h]

theorem reduceChecks_eq_ok_iff (checks : List Check) :
    reduceChecks parts = .ok checks ↔ checks ≠ [] ∧ parts = checks.map .check := by
  unfold reduceChecks
  split
  · rename_i hempty
    rw [List.isEmpty_iff] at hempty
    subst hempty
    simp [eq_comm]
  · rename_i hempty
    rw [mapM_asCheck_eq_ok_iff]
    constructor
    · rintro rfl
      exact ⟨by simpa using hempty, rfl⟩
    · exact And.right

theorem mapCheckSlots_ne_nil (f : Nat → Nat) {checks : List Check} (h : checks ≠ []) :
    mapCheckSlots f checks ≠ [] := by
  rw [mapCheckSlots_eq_map]
  simpa using h

theorem respects_reduceChecks {checks : List Check} (h : reduceChecks parts = .ok checks) :
    Respects (fun _ parts => (reduceChecks parts).map .clause) 0 document slot parts
      (.clause checks) := by
  obtain ⟨hne, rfl⟩ := (reduceChecks_eq_ok_iff checks).1 h
  refine respects_of_checks .clause rfl rfl (fun f => rfl) fun f => ?_
  exact map_eq_ok.2 ⟨_, (reduceChecks_eq_ok_iff _).2 ⟨mapCheckSlots_ne_nil f hne, rfl⟩, rfl⟩

theorem respects_reduceParenthesized {checks : List Check} (h : reduceChecks parts = .ok checks) :
    Respects (fun _ parts => (reduceChecks parts).map fun checks => .check (.parenthesized checks))
      0 document slot parts (.check (.parenthesized checks)) := by
  obtain ⟨hne, rfl⟩ := (reduceChecks_eq_ok_iff checks).1 h
  refine respects_of_checks (fun checks => .check (.parenthesized checks)) ?_ rfl ?_
    fun f => ?_
  · simp only [Part.slots, Check.slots]
  · intro f
    simp only [Part.mapSlots, Check.mapSlots]
  · exact map_eq_ok.2 ⟨_, (reduceChecks_eq_ok_iff _).2 ⟨mapCheckSlots_ne_nil f hne, rfl⟩, rfl⟩

theorem reduceLogical_eq_ok_iff (combine : List Check → Check) :
    reduceLogical combine parts = .ok check ↔
      ∃ checks, 2 ≤ checks.length ∧ parts = checks.map .check ∧ combine checks = check := by
  unfold reduceLogical
  split
  · rename_i hshort
    constructor
    · intro h
      cases h
    · rintro ⟨checks, hlength, rfl, -⟩
      rw [List.length_map] at hshort
      omega
  · rename_i hlong
    simp only [bind_eq_ok, pure_eq_ok, mapM_asCheck_eq_ok_iff]
    constructor
    · rintro ⟨checks, rfl, rfl⟩
      rw [List.length_map, Nat.not_lt] at hlong
      exact ⟨checks, hlong, rfl, rfl⟩
    · rintro ⟨checks, -, rfl, rfl⟩
      exact ⟨checks, rfl, rfl⟩

theorem respects_reduceLogical {combine : List Check → Check}
    (hslots : ∀ checks, (combine checks).slots = checkSlots checks)
    (hcombine : ∀ f checks, (combine checks).mapSlots f = combine (mapCheckSlots f checks))
    (h : reduceLogical combine parts = .ok check) :
    Respects (fun _ parts => (reduceLogical combine parts).map .check) 0 document slot parts
      (.check check) := by
  obtain ⟨checks, hlength, rfl, rfl⟩ := (reduceLogical_eq_ok_iff combine).1 h
  refine respects_of_checks (fun checks => .check (combine checks)) (hslots checks) rfl ?_
    fun f => ?_
  · intro f
    simp only [Part.mapSlots, hcombine]
  · refine map_eq_ok.2 ⟨_, (reduceLogical_eq_ok_iff combine).2 ⟨_, ?_, rfl, rfl⟩, rfl⟩
    rw [mapCheckSlots_eq_map, List.length_map]
    exact hlength

end Checks

section Clauses

variable {check : Check}

/-- What a clause that may be missing is read from. -/
inductive ReadsOtherwise : List Part → Option (List Check) → Prop
  | omitted : ReadsOtherwise [] none
  | given {part : Part} {clause : List Check} (h : part.asClause = .ok clause) :
      ReadsOtherwise [part] (some clause)

namespace ReadsOtherwise

variable {otherwise : Option (List Check)} (h : ReadsOtherwise parts otherwise)
include h

theorem slots : parts.flatMap Part.slots = otherwiseSlots otherwise := by
  cases h with
  | omitted => rfl
  | given h =>
      rw [List.flatMap_singleton, (Part.slots_of_asClause h).1]
      rfl

theorem isDocument : ∀ p ∈ parts, p.isDocument = false := by
  cases h with
  | omitted => simp
  | given h => exact List.forall_mem_singleton.2 (Part.slots_of_asClause h).2

theorem mapSlots (f : Nat → Nat) :
    ReadsOtherwise (parts.map (Part.mapSlots f)) (mapOtherwiseSlots f otherwise) := by
  cases h with
  | omitted => exact .omitted
  | given h => exact .given (Part.asClause_mapSlots f h)

end ReadsOtherwise

theorem reduceConditional_eq_ok_iff :
    reduceConditional parts = .ok check ↔
      ∃ condition part clause rest otherwise, part.asClause = .ok clause ∧
        ReadsOtherwise rest otherwise ∧ parts = .check condition :: part :: rest ∧
        check = .conditional condition clause otherwise := by
  constructor
  · intro h
    unfold reduceConditional at h
    split at h
    · simp only [bind_eq_ok, pure_eq_ok, Part.asCheck_eq_ok_iff] at h
      obtain ⟨condition, rfl, clause, hclause, rfl⟩ := h
      exact ⟨condition, _, clause, [], none, hclause, .omitted, rfl, rfl⟩
    · simp only [bind_eq_ok, pure_eq_ok, Part.asCheck_eq_ok_iff] at h
      obtain ⟨condition, rfl, clause, hclause, otherwise, hotherwise, rfl⟩ := h
      exact ⟨condition, _, clause, _, some otherwise, hclause, .given hotherwise, rfl, rfl⟩
    · cases h
  · rintro ⟨condition, part, clause, rest, otherwise, hclause, hotherwise, rfl, rfl⟩
    cases hotherwise with
    | omitted =>
        simp only [reduceConditional, hclause]
        rfl
    | given hotherwise =>
        simp only [reduceConditional, hclause, hotherwise]
        rfl

theorem respects_reduceConditional (h : reduceConditional parts = .ok check) :
    Respects (fun _ parts => (reduceConditional parts).map .check) 0 document slot parts
      (.check check) := by
  obtain ⟨condition, part, clause, rest, otherwise, hclause, hotherwise, rfl, rfl⟩ :=
    reduceConditional_eq_ok_iff.1 h
  obtain ⟨hslots, hdocument⟩ := Part.slots_of_asClause hclause
  refine ⟨?_, by simp [Part.total?], fun _ => ?_, fun f => ?_⟩
  · simp [Check.slots, hslots, hotherwise.slots]
  · simpa [hdocument] using hotherwise.isDocument
  · refine map_eq_ok.2 ⟨_, reduceConditional_eq_ok_iff.2 ⟨condition.mapSlots f, part.mapSlots f, _,
      _, _, Part.asClause_mapSlots f hclause, hotherwise.mapSlots f, rfl, rfl⟩, ?_⟩
    rw [Part.mapSlots_check, Check.mapSlots]

theorem reduceCase_eq_ok_iff {switchCase : SwitchCase} :
    reduceCase parts = .ok switchCase ↔
      ∃ condition part clause, part.asClause = .ok clause ∧ parts = [.check condition, part] ∧
        switchCase = .mk condition clause := by
  constructor
  · intro h
    unfold reduceCase at h
    split at h
    · simp only [bind_eq_ok, pure_eq_ok, Part.asCheck_eq_ok_iff] at h
      obtain ⟨condition, rfl, clause, hclause, rfl⟩ := h
      exact ⟨condition, _, clause, hclause, rfl, rfl⟩
    · cases h
  · rintro ⟨condition, part, clause, hclause, rfl, rfl⟩
    simp only [reduceCase, hclause]
    rfl

theorem respects_reduceCase {switchCase : SwitchCase} (h : reduceCase parts = .ok switchCase) :
    Respects (fun _ parts => (reduceCase parts).map .switchCase) 0 document slot parts
      (.switchCase switchCase) := by
  obtain ⟨condition, part, clause, hclause, rfl, rfl⟩ := reduceCase_eq_ok_iff.1 h
  obtain ⟨hslots, hdocument⟩ := Part.slots_of_asClause hclause
  refine ⟨?_, by simp [Part.total?], by simp [hdocument], fun f => ?_⟩
  · simp [SwitchCase.slots, hslots]
  · exact map_eq_ok.2 ⟨_, reduceCase_eq_ok_iff.2 ⟨condition.mapSlots f, part.mapSlots f, _,
      Part.asClause_mapSlots f hclause, rfl, rfl⟩, rfl⟩

theorem splits_splitCases : Splits Part.switchCase splitCases where
  cons _ _ := rfl
  stop rest h := by
    cases rest with
    | nil => rfl
    | cons part tail =>
        cases part with
        | switchCase c => exact absurd rfl (h c tail)
        | _ => rfl

theorem ReadsOtherwise.not_switchCase {rest : List Part} {otherwise : Option (List Check)}
    (h : ReadsOtherwise rest otherwise) : ∀ c tail, rest ≠ .switchCase c :: tail := by
  rintro c tail rfl
  cases h with
  | given h => cases h

theorem reduceSwitch_eq_ok_iff :
    reduceSwitch parts = .ok check ↔
      ∃ cases rest otherwise, cases ≠ [] ∧ ReadsOtherwise rest otherwise ∧
        parts = cases.map .switchCase ++ rest ∧ check = .switch cases otherwise := by
  constructor
  · intro h
    unfold reduceSwitch at h
    split at h
    · cases h
    · cases h
    · rename_i cases hne hsplit
      cases h
      exact ⟨cases, [], none, hne, .omitted, splits_splitCases.eq_append hsplit, rfl⟩
    -- One part behind the cases is the clause for when no condition holds.
    · rename_i cases part rest hne hsplit
      simp only [bind_eq_ok, pure_eq_ok] at h
      obtain ⟨clause, hclause, nothing, hrest, rfl⟩ := h
      have hparts := splits_splitCases.eq_append hsplit
      rw [eq_nil_of_refuseRest hrest] at hparts
      exact ⟨cases, [part], some clause, hne, .given hclause, hparts, rfl⟩
  · rintro ⟨cases, rest, otherwise, hne, hotherwise, rfl, rfl⟩
    obtain ⟨first, others, rfl⟩ := List.exists_cons_of_ne_nil hne
    have hsplit := splits_splitCases.append (first :: others) hotherwise.not_switchCase
    cases hotherwise with
    | omitted => simp only [reduceSwitch, hsplit]
    | given hclause =>
        simp only [reduceSwitch, hsplit, hclause]
        rfl

theorem slots_map_switchCase (cases : List SwitchCase) :
    (cases.map Part.switchCase).flatMap Part.slots = caseSlots cases := by
  rw [caseSlots_eq_flatMap, List.flatMap_map]
  rfl

theorem map_mapSlots_map_switchCase (f : Nat → Nat) (cases : List SwitchCase) :
    (cases.map Part.switchCase).map (Part.mapSlots f) =
      (mapCaseSlots f cases).map .switchCase := by
  rw [mapCaseSlots_eq_map, List.map_map, List.map_map]
  rfl

theorem mapCaseSlots_ne_nil (f : Nat → Nat) {cases : List SwitchCase} (h : cases ≠ []) :
    mapCaseSlots f cases ≠ [] := by
  rw [mapCaseSlots_eq_map]
  simpa using h

theorem isDocument_map_switchCase (cases : List SwitchCase) :
    ∀ p ∈ cases.map Part.switchCase, p.isDocument = false := by
  simp [Part.isDocument]

theorem respects_reduceSwitch (h : reduceSwitch parts = .ok check) :
    Respects (fun _ parts => (reduceSwitch parts).map .check) 0 document slot parts
      (.check check) := by
  obtain ⟨cases, rest, otherwise, hne, hotherwise, rfl, rfl⟩ := reduceSwitch_eq_ok_iff.1 h
  refine ⟨?_, by simp [Part.total?], fun _ => ?_, fun f => ?_⟩
  · simp [Check.slots, slots_map_switchCase, hotherwise.slots]
  · exact List.forall_mem_append.2 ⟨isDocument_map_switchCase cases, hotherwise.isDocument⟩
  · rw [List.map_append, map_mapSlots_map_switchCase, Part.mapSlots_check, Check.mapSlots]
    exact map_eq_ok.2 ⟨_, reduceSwitch_eq_ok_iff.2 ⟨_, _, _, mapCaseSlots_ne_nil f hne,
      hotherwise.mapSlots f, rfl, rfl⟩, rfl⟩

end Clauses

end CsvSchema
