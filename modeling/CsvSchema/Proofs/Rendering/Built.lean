import CsvSchema.Proofs.WellFormed.Documents
import CsvSchema.Proofs.Rendering.Checks

/-!
# Atomic checks of schemas that build

What an atomic check is configured with has been read from tokens: numbers are numbers that can be
written, times are times of a clock, and patterns are what their source stands for.  Nodes pass the
atomic checks of their parts on, so this holds of all atomic checks of a schema that builds,
`Schema.isBuilt_of_ofTree`.
-/

namespace CsvSchema

open Fallible

/-- All atomic checks in a check have been read. -/
def Check.IsRead (check : Check) : Prop := ∀ atom ∈ check.atoms, atom.IsRead

/-- The atomic checks in a part. -/
def Part.atoms : Part → List Atom
  | .body columns _ => columnAtoms columns
  | .column c => checkAtoms c.rule.checks
  | .rule r => checkAtoms r.checks
  | .check c => c.atoms
  | .clause checks => checkAtoms checks
  | .switchCase c => caseAtoms [c]
  | .schema s => columnAtoms s.columns
  | _ => []

/-- All atomic checks in a part have been read. -/
def Part.IsRead (part : Part) : Prop := ∀ atom ∈ part.atoms, atom.IsRead

section Lists

theorem forall_checkAtoms {checks : List Check} {p : Atom → Prop} :
    (∀ atom ∈ checkAtoms checks, p atom) ↔ ∀ check ∈ checks, ∀ atom ∈ check.atoms, p atom := by
  induction checks with
  | nil => simp [checkAtoms]
  | cons check rest ih => rw [checkAtoms, List.forall_mem_append, List.forall_mem_cons, ih]

theorem forall_caseAtoms {cases : List SwitchCase} {p : Atom → Prop} :
    (∀ atom ∈ caseAtoms cases, p atom) ↔
      ∀ switchCase ∈ cases, ∀ atom ∈ caseAtoms [switchCase], p atom := by
  induction cases with
  | nil => simp [caseAtoms]
  | cons switchCase rest ih =>
      cases switchCase with
      | mk condition clause =>
          rw [caseAtoms, List.forall_mem_append, List.forall_mem_cons, ih, caseAtoms, caseAtoms,
            List.append_nil]

theorem Check.isRead_atom {atom : Atom} (h : atom.IsRead) : (Check.atom atom).IsRead :=
  List.forall_mem_singleton.2 h

end Lists

variable {parts : List Part} {check : Check}

section Atoms

open Calendar Decimal

theorem Pattern.ofSource?_source {source : String} {pattern : Pattern}
    (h : ofSource? source = some pattern) : ofSource? pattern.source = some pattern := by
  have hsource : pattern.source = source := by
    unfold ofSource? at h
    split at h
    · rw [← Option.some.inj h]
    · cases h
  rw [hsource, h]

/-- Each bound that is given has what the values of its form have. -/
theorem ReadsBounds.each {α : Type} [LE α] [DecidableLE α] {form : BoundForm α}
    {bounds : Bounds α} {p : α → Prop} (hform : ∀ text x, form.read text = some x → p x)
    (h : ReadsBounds form parts bounds) : bounds.Each p := by
  cases h with
  | omitted => exact ⟨by simp [Bounds.unbounded], by simp [Bounds.unbounded]⟩
  | given h => exact (ordered_of_readBounds h).2.mono fun x ⟨text, hx⟩ => hform text x hx

/-- The test of a node without arguments has none that would have to be read. -/
def NodeKind.IsRead : NodeKind → Prop
  | plain test => test.IsRead
  | _ => True

theorem ReadsTest.isRead {kind : NodeKind} {test : ValueTest} (hkind : kind.IsRead)
    (h : ReadsTest kind parts test) : test.IsRead := by
  cases h with
  | plain test => exact hkind
  | regex h => exact Pattern.ofSource?_source h
  | range h =>
      exact (ReadsBounds.given h).each fun text x hx =>
        ⟨isAligned_of_readBinary64? hx, isFinite_of_readBinary64? hx⟩
  | dateTime h => exact h.each fun _ _ => isClock_of_readDateTime?
  | zonedDateTime h => exact h.each fun _ _ => isClock_of_readZonedDateTime?
  | time h => exact h.each fun _ _ => isClock_of_readXsdTime?
  | exactly | between | date | ukDate => trivial

theorem ReadsAtom.isRead {slot : Nat} {kind : NodeKind} {atom : Atom} (hkind : kind.IsRead)
    (h : ReadsAtom slot kind parts atom) : atom.IsRead := by
  cases h with
  | value h => exact h.isRead hkind
  | integrity hfolder hsubfolder hnone hrule => exact hnone
  | _ => trivial

end Atoms

section Compounds

variable {checks : List Check}

theorem isRead_checks_of_map (h : ∀ p ∈ checks.map Part.check, p.IsRead) :
    ∀ atom ∈ checkAtoms checks, atom.IsRead :=
  forall_checkAtoms.2 fun check hmem => h (.check check) (List.mem_map_of_mem hmem)

theorem isRead_cases_of_map {cases : List SwitchCase}
    (h : ∀ p ∈ cases.map Part.switchCase, p.IsRead) : ∀ atom ∈ caseAtoms cases, atom.IsRead :=
  forall_caseAtoms.2 fun switchCase hmem => h (.switchCase switchCase) (List.mem_map_of_mem hmem)

theorem Part.isRead_of_asClause {part : Part} (h : part.asClause = .ok checks)
    (hpart : part.IsRead) : ∀ atom ∈ checkAtoms checks, atom.IsRead := by
  rcases (asClause_eq_ok_iff part checks).1 h with rfl | ⟨check, rfl, rfl⟩
  · exact hpart
  · exact forall_checkAtoms.2 (List.forall_mem_singleton.2 hpart)

variable (hparts : ∀ p ∈ parts, p.IsRead)
include hparts

theorem isRead_of_reduceChecks (h : reduceChecks parts = .ok checks) :
    ∀ atom ∈ checkAtoms checks, atom.IsRead := by
  obtain ⟨-, rfl⟩ := (reduceChecks_eq_ok_iff checks).1 h
  exact isRead_checks_of_map hparts

/-- A combination has the atomic checks of its parts. -/
theorem isRead_of_reduceLogical {combine : List Check → Check}
    (hcombine : ∀ checks, (combine checks).atoms = checkAtoms checks)
    (h : reduceLogical combine parts = .ok check) : check.IsRead := by
  obtain ⟨checks, -, rfl, rfl⟩ := (reduceLogical_eq_ok_iff combine).1 h
  rw [Check.IsRead, hcombine]
  exact isRead_checks_of_map hparts

theorem ReadsOtherwise.isRead {otherwise : Option (List Check)}
    (h : ReadsOtherwise parts otherwise) : ∀ atom ∈ otherwiseAtoms otherwise, atom.IsRead := by
  cases h with
  | omitted => simp [otherwiseAtoms]
  | given h => exact Part.isRead_of_asClause h (hparts _ (by simp))

theorem isRead_of_reduceSingle (h : reduceSingle parts = .ok check) : check.IsRead := by
  obtain ⟨column, inner, rfl, rfl⟩ := reduceSingle_eq_ok_iff.1 h
  rw [Check.IsRead, Check.atoms]
  exact hparts (.check inner) (by simp)

theorem isRead_of_reduceConditional (h : reduceConditional parts = .ok check) : check.IsRead := by
  obtain ⟨condition, part, clause, rest, otherwise, hclause, hotherwise, rfl, rfl⟩ :=
    reduceConditional_eq_ok_iff.1 h
  simp only [List.forall_mem_cons] at hparts
  obtain ⟨hcondition, hpart, hrest⟩ := hparts
  rw [Check.IsRead, Check.atoms, List.forall_mem_append, List.forall_mem_append]
  exact ⟨⟨hcondition, Part.isRead_of_asClause hclause hpart⟩, hotherwise.isRead hrest⟩

theorem isRead_of_reduceCase {switchCase : SwitchCase} (h : reduceCase parts = .ok switchCase) :
    ∀ atom ∈ caseAtoms [switchCase], atom.IsRead := by
  obtain ⟨condition, part, clause, hclause, rfl, rfl⟩ := reduceCase_eq_ok_iff.1 h
  simp only [List.forall_mem_cons] at hparts
  rw [caseAtoms, caseAtoms, List.append_nil, List.forall_mem_append]
  exact ⟨hparts.1, Part.isRead_of_asClause hclause hparts.2.1⟩

theorem isRead_of_reduceSwitch (h : reduceSwitch parts = .ok check) : check.IsRead := by
  obtain ⟨cases, rest, otherwise, -, hotherwise, rfl, rfl⟩ := reduceSwitch_eq_ok_iff.1 h
  obtain ⟨hcases, hrest⟩ := List.forall_mem_append.1 hparts
  rw [Check.IsRead, Check.atoms, List.forall_mem_append]
  exact ⟨isRead_cases_of_map hcases, hotherwise.isRead hrest⟩

end Compounds

section Documents

variable (hparts : ∀ p ∈ parts, p.IsRead)
include hparts

theorem isRead_of_reduceRule {rule : ColumnRule} (h : reduceRule parts = .ok rule) :
    (Part.rule rule).IsRead := by
  obtain ⟨tail, -, rfl⟩ := of_reduceRule h
  exact isRead_checks_of_map (List.forall_mem_append.1 hparts).1

theorem isRead_of_reduceColumn {column : ColumnDefinition} (h : reduceColumn parts = .ok column) :
    (Part.column column).IsRead := by
  obtain ⟨raw, rfl, -, -⟩ := (reduceColumn_eq_ok_iff column).1 h
  exact hparts (.rule column.rule) (by simp)

theorem isRead_of_reduceBody {slot : Nat} {part : Part} (h : reduceBody slot parts = .ok part) :
    part.IsRead := by
  obtain ⟨columns, hcolumns, hpart⟩ := bind_eq_ok.1 h
  rw [← pure_eq_ok.1 hpart]
  rw [mapM_asColumn_eq_ok_iff] at hcolumns
  subst hcolumns
  intro atom hatom
  obtain ⟨column, hmem, hcolumn⟩ := List.mem_flatMap.1 hatom
  exact hparts (.column column) (List.mem_map_of_mem hmem) atom hcolumn

theorem isRead_of_reduceSchema {schema : Schema} (h : reduceSchema parts = .ok schema) :
    (Part.schema schema).IsRead := by
  obtain ⟨rfl, -⟩ := (reduceSchema_eq_ok_iff schema).1 h
  exact hparts (.body schema.columns schema.slots) (by simp)

theorem isRead_of_reduceStart {schema : Schema} (h : reduceStart parts = .ok schema) :
    (Part.schema schema).IsRead := by
  obtain rfl := (reduceStart_eq_ok_iff schema).1 h
  exact hparts (.schema schema) (by simp)

theorem isRead_of_reduceBodyPart {part : Part} (h : reduceBodyPart parts = .ok part) :
    part.IsRead := by
  rcases (reduceBodyPart_eq_ok_iff part).1 h with ⟨-, rfl⟩ | rfl
  · simp [Part.IsRead, Part.atoms]
  · exact hparts part (by simp)

end Documents

section Nodes

/-- A part that can hold no check. -/
theorem Part.isRead_of_isPlain {part : Part} (h : part.isPlain = true) : part.IsRead := by
  cases part <;> first | (simp [Part.isPlain] at h; done) | simp [Part.IsRead, Part.atoms]

theorem NodeKind.isRead_of_ofTag? {tag : String} {kind : NodeKind} (h : ofTag? tag = some kind) :
    kind.IsRead := by
  have htags : ∀ entry ∈ tags, entry.2.IsRead := by
    simp [tags, GlobalDirective.all, ColumnDirective.all, NodeKind.IsRead, ValueTest.IsRead]
  exact htags (tag, kind) (mem_tags_of_ofTag? h)

theorem isRead_of_map {α : Type} {action : Except Fault α} {make : α → Part} {part : Part}
    (h : action.map make = .ok part) (hmake : ∀ a, action = .ok a → (make a).IsRead) :
    part.IsRead := by
  obtain ⟨a, ha, rfl⟩ := map_eq_ok.1 h
  exact hmake a ha

/-- A node has the atomic checks of its parts, and perhaps one of its own that has been read. -/
theorem NodeKind.isRead_reduce {kind : NodeKind} {slot : Nat} {part : Part} (hkind : kind.IsRead)
    (hparts : ∀ p ∈ parts, p.IsRead) (h : kind.reduce slot parts = .ok part) : part.IsRead := by
  cases kind with
  | comment =>
      cases h
      exact Part.isRead_of_isPlain rfl
  | body => exact isRead_of_reduceBody hparts h
  | bodyPart => exact isRead_of_reduceBodyPart hparts h
  | prolog => exact Part.isRead_of_isPlain (allPlain_of_reduceProlog h).2
  | columnDirective directive =>
      obtain ⟨-, rfl⟩ := reduceFlag_eq_ok_iff.1 h
      exact Part.isRead_of_isPlain rfl
  | check =>
      obtain ⟨check, rfl, rfl⟩ := reduce_check_eq_ok_iff.1 h
      exact hparts (.check check) (by simp)
  | start => exact isRead_of_map h fun _ => isRead_of_reduceStart hparts
  | schema => exact isRead_of_map h fun _ => isRead_of_reduceSchema hparts
  | column => exact isRead_of_map h fun _ => isRead_of_reduceColumn hparts
  | rule => exact isRead_of_map h fun _ => isRead_of_reduceRule hparts
  | single => exact isRead_of_map h fun _ => isRead_of_reduceSingle hparts
  | parenthesized =>
      refine isRead_of_map h fun checks hchecks => ?_
      rw [Part.IsRead, Part.atoms, Check.atoms]
      exact isRead_of_reduceChecks hparts hchecks
  | comparison _ | any | regex | range | length | plain _ | identical | unique | dateTime
  | zonedDateTime | date | time | ukDate | composedDate | partialDate | fileExists | integrity
  | checksum | fileCount =>
      obtain ⟨atom, hatom, rfl⟩ := readsAtom_of_reduce rfl h
      exact Check.isRead_atom (hatom.isRead hkind)
  | or | and =>
      exact isRead_of_map h fun _ => isRead_of_reduceLogical hparts fun _ => by rw [Check.atoms]
  | conditional => exact isRead_of_map h fun _ => isRead_of_reduceConditional hparts
  | clause => exact isRead_of_map h fun _ => isRead_of_reduceChecks hparts
  | switch => exact isRead_of_map h fun _ => isRead_of_reduceSwitch hparts
  | switchCase => exact isRead_of_map h fun _ => isRead_of_reduceCase hparts
  | _ => exact isRead_of_map h fun _ _ => Part.isRead_of_isPlain rfl

theorem isRead_of_reduceTag {tag : String} {slot next : Nat} {part : Part}
    (h : reduceTag tag slot parts = .ok (part, next)) (hparts : ∀ p ∈ parts, p.IsRead) :
    part.IsRead := by
  rcases of_reduceTag h with ⟨kind, hkind, hmade, -⟩ | ⟨-, rfl, -⟩
  · exact NodeKind.isRead_reduce (NodeKind.isRead_of_ofTag? hkind) hparts hmade
  · exact hparts part (by simp)

end Nodes

namespace Schema

/-- What holds of a schema because it has been built: it is well formed, its atomic checks have been
read, and its slots increase. -/
structure IsBuilt (schema : Schema) : Prop where
  wellFormed : schema.WellFormed
  isRead : ∀ atom ∈ columnAtoms schema.columns, atom.IsRead
  increasing : (columnSlots schema.columns).Pairwise (· < ·)

theorem isBuilt_of_ofTree {tree : Node} {schema : Schema} (h : ofTree tree = .ok schema) :
    schema.IsBuilt := by
  obtain ⟨next, hpart⟩ := ofTree_eq_ok.1 h
  have hincreasing := (reduceChild_numbered hpart).increasing
  rw [List.flatMap_singleton] at hincreasing
  refine ⟨wellFormed_of_reduceChild hpart, ?_, hincreasing⟩
  exact forall_of_reduceChild (P := Part.IsRead) (fun _ => Part.isRead_of_isPlain rfl)
    (fun htag _ hparts => isRead_of_reduceTag htag hparts) hpart

end Schema

end CsvSchema
