import CsvSchema.Proofs.Slots.Parts

/-!
# Nodes without checks below them

Most checks, all operands and everything at the head of a schema are made of parts that hold no
check.  Such a check has a slot only if it takes one for itself.

What operands and atomic checks are read from is said once, kind by kind: `ReadsOperand`,
`ReadsTest` and `ReadsAtom`.  Whatever holds of all operands or of all atomic checks is read off
these relations.
-/

namespace CsvSchema

open Fallible

/-- Every part of a list is plain. -/
def AllPlain (parts : List Part) : Prop := ∀ part ∈ parts, part.isPlain = true

@[grind =] theorem allPlain_nil : AllPlain [] ↔ True := by simp [AllPlain]

@[grind =] theorem allPlain_cons (part : Part) (parts : List Part) :
    AllPlain (part :: parts) ↔ part.isPlain = true ∧ AllPlain parts :=
  List.forall_mem_cons

@[grind =] theorem allPlain_append (parts rest : List Part) :
    AllPlain (parts ++ rest) ↔ AllPlain parts ∧ AllPlain rest :=
  List.forall_mem_append

theorem map_mapSlots_of_allPlain (f : Nat → Nat) {parts : List Part} (h : AllPlain parts) :
    parts.map (Part.mapSlots f) = parts := by
  conv => rhs; rw [← List.map_id parts]
  exact List.map_congr_left fun part hpart => Part.mapSlots_of_isPlain f (h part hpart)

theorem slots_of_allPlain {parts : List Part} (h : AllPlain parts) :
    parts.flatMap Part.slots = [] :=
  List.flatMap_eq_nil_iff.2 fun part hpart => Part.slots_of_isPlain (h part hpart)

section Relations

/-- What an operand that may be left out is read from. -/
inductive ReadsOptional : List Part → Option Operand → Prop
  | omitted : ReadsOptional [] none
  | given {part : Part} {operand : Operand} (h : part.asOperand = .ok operand) :
      ReadsOptional [part] (some operand)

/-- What bounds that may be left out are read from. -/
inductive ReadsBounds {α : Type} [LE α] [DecidableLE α] (form : BoundForm α) :
    List Part → Bounds α → Prop
  | omitted : ReadsBounds form [] .unbounded
  | given {lower upper : Part} {bounds : Bounds α} (h : readBounds form lower upper = .ok bounds) :
      ReadsBounds form [lower, upper] bounds

/-- What the nodes of each kind read operands from. -/
inductive ReadsOperand : NodeKind → List Part → Operand → Prop
  | literal {part : Part} {text : String} (h : part.asOperand = .ok (.literal text)) :
      ReadsOperand .provided [part] (.literal text)
  | provided {part : Part} {inner : Operand} (h : part.asOperand = .ok inner)
      (hinner : ∀ text, inner ≠ .literal text) : ReadsOperand .provided [part] (.provided inner)
  | reference {raw : String} (hne : Text.referenceName raw ≠ "") :
      ReadsOperand .reference [.token raw] (.column (Text.referenceName raw))
  | concat {parts : List Part} {operands : List Operand} (hne : operands ≠ [])
      (h : parts.mapM Part.asOperand = .ok operands) : ReadsOperand .concat parts (.concat operands)
  | noExtension {part : Part} {inner : Operand} (h : part.asOperand = .ok inner) :
      ReadsOperand .noExtension [part] (.noExtension inner)
  | uriDecode {part : Part} {rest : List Part} {value : Operand} {encoding : Option Operand}
      (hvalue : part.asOperand = .ok value) (hencoding : ReadsOptional rest encoding) :
      ReadsOperand .uriDecode (part :: rest) (.uriDecode value encoding)
  | file {before : List Part} {part : Part} {folder : Option Operand} {file : Operand}
      (hfolder : ReadsOptional before folder) (hfile : part.asOperand = .ok file) :
      ReadsOperand .file (before ++ [part]) (.file folder file)

/-- What the nodes of each kind read tests from. -/
inductive ReadsTest : NodeKind → List Part → ValueTest → Prop
  | plain (test : ValueTest) : ReadsTest (.plain test) [] test
  | regex {raw : String} {pattern : Pattern}
      (h : Pattern.ofSource? (Text.literalText raw) = some pattern) :
      ReadsTest .regex [.token raw] (.regex pattern)
  | range {lower upper : Part} {bounds : Bounds Decimal.Binary64}
      (h : readBounds rangeForm lower upper = .ok bounds) :
      ReadsTest .range [lower, upper] (.range bounds)
  | exactly {raw : String} {length : Nat} (h : readLength? (Text.literalText raw) = some length) :
      ReadsTest .length [.token raw] (.length (.exactly length))
  | between {lower upper : Part} {bounds : Bounds Nat}
      (h : readBounds lengthForm lower upper = .ok bounds) :
      ReadsTest .length [lower, upper] (.length (.between bounds))
  | dateTime {parts : List Part} {bounds : Bounds Calendar.DateTime}
      (h : ReadsBounds dateTimeForm parts bounds) : ReadsTest .dateTime parts (.dateTime bounds)
  | zonedDateTime {parts : List Part} {bounds : Bounds Calendar.DateTime}
      (h : ReadsBounds zonedDateTimeForm parts bounds) :
      ReadsTest .zonedDateTime parts (.zonedDateTime bounds)
  | date {parts : List Part} {bounds : Bounds Calendar.Date}
      (h : ReadsBounds dateForm parts bounds) : ReadsTest .date parts (.date bounds)
  | time {parts : List Part} {bounds : Bounds Calendar.Time}
      (h : ReadsBounds timeForm parts bounds) : ReadsTest .time parts (.time bounds)
  | ukDate {parts : List Part} {bounds : Bounds Calendar.Date}
      (h : ReadsBounds ukDateForm parts bounds) : ReadsTest .ukDate parts (.ukDate bounds)

/-- What the nodes of each kind read atomic checks from, when `slot` is the next free slot. -/
inductive ReadsAtom (slot : Nat) : NodeKind → List Part → Atom → Prop
  | value {kind : NodeKind} {parts : List Part} {test : ValueTest} (h : ReadsTest kind parts test) :
      ReadsAtom slot kind parts (.value test)
  | compare (relation : Relation) {part : Part} {operand : Operand}
      (h : part.asOperand = .ok operand) :
      ReadsAtom slot (.comparison relation) [part] (.compare relation operand)
  | any {parts : List Part} {operands : List Operand} (hne : operands ≠ [])
      (h : parts.mapM Part.asOperand = .ok operands) : ReadsAtom slot .any parts (.any operands)
  | composedDate {yearPart monthPart dayPart : Part} {rest : List Part} {year month day : Operand}
      {bounds : Bounds Calendar.Date} (hyear : yearPart.asOperand = .ok year)
      (hmonth : monthPart.asOperand = .ok month) (hday : dayPart.asOperand = .ok day)
      (hbounds : ReadsBounds composedDateForm rest bounds) :
      ReadsAtom slot .composedDate (yearPart :: monthPart :: dayPart :: rest)
        (.composedDate year month day bounds)
  | partialDate {yearPart monthPart dayPart : Part} {year month day : Operand}
      (hyear : yearPart.asOperand = .ok year) (hmonth : monthPart.asOperand = .ok month)
      (hday : dayPart.asOperand = .ok day) :
      ReadsAtom slot .partialDate [yearPart, monthPart, dayPart] (.partialDate year month day)
  | unique {parts : List Part} {columns : List String}
      (h : parts.mapM Part.asReference = .ok columns) :
      ReadsAtom slot .unique parts (.unique columns slot)
  | identical : ReadsAtom slot .identical [] (.identical slot)
  | fileExists {parts : List Part} {folder : Option Operand} (h : ReadsOptional parts folder) :
      ReadsAtom slot .fileExists parts (.fileExists folder)
  /-- A subfolder is only read behind a folder. -/
  | integrity {before between : List Part} {part : Part} {folder subfolder : Option Operand}
      {rule : FolderRule} (hfolder : ReadsOptional before folder)
      (hsubfolder : ReadsOptional between subfolder) (hnone : folder = none → subfolder = none)
      (hrule : readFolderRule part = .ok rule) :
      ReadsAtom slot .integrity (before ++ between ++ [part])
        (.integrity folder subfolder rule slot)
  | checksum {part : Part} {raw : String} {file : Operand} {algorithm : HashAlgorithm}
      (hfile : part.asOperand = .ok file)
      (h : HashAlgorithm.ofName? (Text.literalText raw) = some algorithm) :
      ReadsAtom slot .checksum [part, .token raw] (.checksum file algorithm)
  | fileCount {part : Part} {folder : Operand} (h : part.asOperand = .ok folder) :
      ReadsAtom slot .fileCount [part] (.fileCount folder)

end Relations

section Plain

variable {parts : List Part} {kind : NodeKind}

theorem ReadsOptional.allPlain {operand : Option Operand} (h : ReadsOptional parts operand) :
    AllPlain parts := by
  cases h with
  | omitted => grind
  | given h => grind

theorem ReadsBounds.allPlain {α : Type} [LE α] [DecidableLE α] {form : BoundForm α}
    {bounds : Bounds α} (h : ReadsBounds form parts bounds) : AllPlain parts := by
  cases h with
  | omitted => grind
  | given h => grind

theorem ReadsOperand.allPlain {operand : Operand} (h : ReadsOperand kind parts operand) :
    AllPlain parts := by
  cases h with
  | concat hne h => exact of_mapM_eq_ok (fun _ _ => Part.isPlain_of_asOperand) h
  | uriDecode hvalue hencoding =>
      have hrest := hencoding.allPlain
      grind
  | file hfolder hfile =>
      have hbefore := hfolder.allPlain
      grind
  | _ => grind [Part.isPlain]

theorem ReadsTest.allPlain {test : ValueTest} (h : ReadsTest kind parts test) :
    AllPlain parts := by
  cases h with
  | dateTime h | zonedDateTime h | date h | time h | ukDate h => exact h.allPlain
  | _ => grind [Part.isPlain]

theorem ReadsAtom.allPlain {slot : Nat} {atom : Atom} (h : ReadsAtom slot kind parts atom) :
    AllPlain parts := by
  cases h with
  | value h => exact h.allPlain
  | any hne h => exact of_mapM_eq_ok (fun _ _ => Part.isPlain_of_asOperand) h
  | unique h => exact of_mapM_eq_ok (fun _ _ => Part.isPlain_of_asReference) h
  | composedDate hyear hmonth hday hbounds =>
      have hrest := hbounds.allPlain
      grind
  | fileExists h => exact h.allPlain
  | integrity hfolder hsubfolder hnone hrule =>
      have hbefore := hfolder.allPlain
      have hbetween := hsubfolder.allPlain
      grind
  | _ => grind [Part.isPlain]

end Plain

section Operands

variable {parts : List Part} {operand : Operand}

theorem readsOperand_of_reduceProvided (h : reduceProvided parts = .ok operand) :
    ReadsOperand .provided parts operand := by
  unfold reduceProvided at h
  split at h
  · cases h
    exact .literal rfl
  · obtain ⟨inner, hinner, h⟩ := bind_eq_ok.1 h
    split at h
    · rw [← pure_eq_ok.1 h]
      exact .literal hinner
    · rename_i hliteral
      rw [← pure_eq_ok.1 h]
      exact .provided hinner hliteral
  · cases h

theorem readsOperand_of_reduceReference (h : reduceReference parts = .ok operand) :
    ReadsOperand .reference parts operand := by
  unfold reduceReference at h
  split at h
  · simp only [bind_eq_ok, Part.asToken_eq_ok_iff] at h
    obtain ⟨raw, rfl, h⟩ := h
    split at h
    · simp only [throw_eq_ok] at h
    · rename_i hne
      rw [← pure_eq_ok.1 h]
      exact .reference hne
  · cases h

theorem readsOperand_of_reduceConcat (h : reduceConcat parts = .ok operand) :
    ReadsOperand .concat parts operand := by
  unfold reduceConcat at h
  split at h
  · cases h
  · rename_i hempty
    obtain ⟨operands, hoperands, rfl⟩ := map_eq_ok.1 h
    exact .concat (ne_nil_of_mapM_eq_ok hempty hoperands) hoperands

theorem readsOperand_of_reduceNoExtension (h : reduceNoExtension parts = .ok operand) :
    ReadsOperand .noExtension parts operand := by
  unfold reduceNoExtension at h
  split at h
  · obtain ⟨inner, hinner, rfl⟩ := map_eq_ok.1 h
    exact .noExtension hinner
  · cases h

theorem readsOperand_of_reduceUriDecode (h : reduceUriDecode parts = .ok operand) :
    ReadsOperand .uriDecode parts operand := by
  unfold reduceUriDecode at h
  split at h
  · simp only [bind_eq_ok, pure_eq_ok] at h
    obtain ⟨value, hvalue, rfl⟩ := h
    exact .uriDecode hvalue .omitted
  · simp only [bind_eq_ok, pure_eq_ok] at h
    obtain ⟨value, hvalue, encoding, hencoding, rfl⟩ := h
    exact .uriDecode hvalue (.given hencoding)
  · cases h

theorem readsOperand_of_reduceFile (h : reduceFile parts = .ok operand) :
    ReadsOperand .file parts operand := by
  unfold reduceFile at h
  split at h
  · simp only [bind_eq_ok, pure_eq_ok] at h
    obtain ⟨file, hfile, rfl⟩ := h
    exact .file .omitted hfile
  · simp only [bind_eq_ok, pure_eq_ok] at h
    obtain ⟨folder, hfolder, file, hfile, rfl⟩ := h
    exact .file (.given hfolder) hfile
  · cases h

end Operands

section Tests

variable {parts : List Part} {kind : NodeKind} {test : ValueTest} {check : Check}

theorem readsTest_of_reducePlain (h : reducePlain test parts = .ok check) :
    ∃ result, ReadsTest (.plain test) parts result ∧ check = .atom (.value result) := by
  unfold reducePlain at h
  split at h
  · cases h
    exact ⟨test, .plain test, rfl⟩
  · cases h

theorem readsTest_of_reduceRegex (h : reduceRegex parts = .ok check) :
    ∃ test, ReadsTest .regex parts test ∧ check = .atom (.value test) := by
  unfold reduceRegex at h
  split at h
  · simp only [bind_eq_ok, Part.asToken_eq_ok_iff] at h
    obtain ⟨raw, rfl, h⟩ := h
    split at h
    · rename_i pattern hpattern
      exact ⟨.regex pattern, .regex hpattern, (pure_eq_ok.1 h).symm⟩
    · simp only [throw_eq_ok] at h
  · cases h

theorem readsTest_of_reduceRange (h : reduceRange parts = .ok check) :
    ∃ test, ReadsTest .range parts test ∧ check = .atom (.value test) := by
  unfold reduceRange at h
  split at h
  · simp only [bind_eq_ok, pure_eq_ok] at h
    obtain ⟨bounds, hbounds, rfl⟩ := h
    exact ⟨.range bounds, .range hbounds, rfl⟩
  · cases h

theorem readsTest_of_reduceLength (h : reduceLength parts = .ok check) :
    ∃ test, ReadsTest .length parts test ∧ check = .atom (.value test) := by
  unfold reduceLength at h
  split at h
  · simp only [bind_eq_ok, Part.asToken_eq_ok_iff] at h
    obtain ⟨raw, rfl, h⟩ := h
    split at h
    · rename_i length hlength
      exact ⟨.length (.exactly length), .exactly hlength, (pure_eq_ok.1 h).symm⟩
    · simp only [throw_eq_ok] at h
  · simp only [bind_eq_ok, pure_eq_ok] at h
    obtain ⟨bounds, hbounds, rfl⟩ := h
    exact ⟨.length (.between bounds), .between hbounds, rfl⟩
  · cases h

theorem readsTest_of_reduceBounded {α : Type} [LE α] [DecidableLE α] {form : BoundForm α}
    {make : Bounds α → ValueTest}
    (hmake : ∀ {bounds}, ReadsBounds form parts bounds → ReadsTest kind parts (make bounds))
    (h : reduceBounded form make parts = .ok check) :
    ∃ test, ReadsTest kind parts test ∧ check = .atom (.value test) := by
  unfold reduceBounded at h
  split at h
  · cases h
    exact ⟨_, hmake .omitted, rfl⟩
  · simp only [bind_eq_ok, pure_eq_ok] at h
    obtain ⟨bounds, hbounds, rfl⟩ := h
    exact ⟨_, hmake (.given hbounds), rfl⟩
  · cases h

end Tests

section Atoms

variable {slot : Nat} {parts : List Part} {kind : NodeKind} {check : Check}

theorem readsAtom_of_reduceComparison {relation : Relation}
    (h : reduceComparison relation parts = .ok check) :
    ∃ atom, ReadsAtom slot (.comparison relation) parts atom ∧ check = .atom atom := by
  unfold reduceComparison at h
  split at h
  · simp only [bind_eq_ok, pure_eq_ok] at h
    obtain ⟨operand, hoperand, rfl⟩ := h
    exact ⟨_, .compare relation hoperand, rfl⟩
  · cases h

theorem readsAtom_of_reduceAny (h : reduceAny parts = .ok check) :
    ∃ atom, ReadsAtom slot .any parts atom ∧ check = .atom atom := by
  unfold reduceAny at h
  split at h
  · cases h
  · rename_i hempty
    simp only [bind_eq_ok, pure_eq_ok] at h
    obtain ⟨operands, hoperands, rfl⟩ := h
    exact ⟨_, .any (ne_nil_of_mapM_eq_ok hempty hoperands) hoperands, rfl⟩

theorem readsAtom_of_reduceComposedDate (h : reduceComposedDate parts = .ok check) :
    ∃ atom, ReadsAtom slot .composedDate parts atom ∧ check = .atom atom := by
  unfold reduceComposedDate at h
  split at h
  · simp only [bind_eq_ok, pure_eq_ok] at h
    obtain ⟨year, hyear, month, hmonth, day, hday, rfl⟩ := h
    exact ⟨_, .composedDate hyear hmonth hday .omitted, rfl⟩
  · simp only [bind_eq_ok, pure_eq_ok] at h
    obtain ⟨year, hyear, month, hmonth, day, hday, bounds, hbounds, rfl⟩ := h
    exact ⟨_, .composedDate hyear hmonth hday (.given hbounds), rfl⟩
  · cases h

theorem readsAtom_of_reducePartialDate (h : reducePartialDate parts = .ok check) :
    ∃ atom, ReadsAtom slot .partialDate parts atom ∧ check = .atom atom := by
  unfold reducePartialDate at h
  split at h
  · simp only [bind_eq_ok, pure_eq_ok] at h
    obtain ⟨year, hyear, month, hmonth, day, hday, rfl⟩ := h
    exact ⟨_, .partialDate hyear hmonth hday, rfl⟩
  · cases h

theorem readsAtom_of_reduceUnique (h : reduceUnique slot parts = .ok check) :
    ∃ atom, ReadsAtom slot .unique parts atom ∧ check = .atom atom := by
  simp only [reduceUnique, bind_eq_ok, pure_eq_ok] at h
  obtain ⟨columns, hcolumns, rfl⟩ := h
  exact ⟨_, .unique hcolumns, rfl⟩

theorem readsAtom_of_reduceIdentical (h : reduceIdentical slot parts = .ok check) :
    ∃ atom, ReadsAtom slot .identical parts atom ∧ check = .atom atom := by
  unfold reduceIdentical at h
  split at h
  · cases h
    exact ⟨_, .identical, rfl⟩
  · cases h

theorem readsAtom_of_reduceFileExists (h : reduceFileExists parts = .ok check) :
    ∃ atom, ReadsAtom slot .fileExists parts atom ∧ check = .atom atom := by
  unfold reduceFileExists at h
  split at h
  · cases h
    exact ⟨_, .fileExists .omitted, rfl⟩
  · simp only [bind_eq_ok, pure_eq_ok] at h
    obtain ⟨folder, hfolder, rfl⟩ := h
    exact ⟨_, .fileExists (.given hfolder), rfl⟩
  · cases h

theorem readsAtom_of_reduceIntegrity (h : reduceIntegrity slot parts = .ok check) :
    ∃ atom, ReadsAtom slot .integrity parts atom ∧ check = .atom atom := by
  unfold reduceIntegrity at h
  split at h
  · simp only [bind_eq_ok, pure_eq_ok] at h
    obtain ⟨rule, hrule, rfl⟩ := h
    exact ⟨_, .integrity .omitted .omitted (fun _ => rfl) hrule, rfl⟩
  · simp only [bind_eq_ok, pure_eq_ok] at h
    obtain ⟨folder, hfolder, rule, hrule, rfl⟩ := h
    exact ⟨_, .integrity (.given hfolder) .omitted (fun _ => rfl) hrule, rfl⟩
  · simp only [bind_eq_ok, pure_eq_ok] at h
    obtain ⟨folder, hfolder, subfolder, hsubfolder, rule, hrule, rfl⟩ := h
    exact ⟨_, .integrity (.given hfolder) (.given hsubfolder) (fun hnone => by cases hnone) hrule,
      rfl⟩
  · cases h

theorem readsAtom_of_reduceChecksum (h : reduceChecksum parts = .ok check) :
    ∃ atom, ReadsAtom slot .checksum parts atom ∧ check = .atom atom := by
  unfold reduceChecksum at h
  split at h
  · simp only [bind_eq_ok, Part.asToken_eq_ok_iff] at h
    obtain ⟨file, hfile, raw, rfl, h⟩ := h
    split at h
    · rename_i algorithm halgorithm
      exact ⟨_, .checksum hfile halgorithm, (pure_eq_ok.1 h).symm⟩
    · simp only [throw_eq_ok] at h
  · cases h

theorem readsAtom_of_reduceFileCount (h : reduceFileCount parts = .ok check) :
    ∃ atom, ReadsAtom slot .fileCount parts atom ∧ check = .atom atom := by
  unfold reduceFileCount at h
  split at h
  · simp only [bind_eq_ok, pure_eq_ok] at h
    obtain ⟨folder, hfolder, rfl⟩ := h
    exact ⟨_, .fileCount hfolder, rfl⟩
  · cases h

end Atoms

section Nodes

variable {slot : Nat} {parts : List Part} {kind : NodeKind} {part : Part}

/-- Whether the nodes of a kind are operands. -/
def NodeKind.isOperand : NodeKind → Bool
  | provided | reference | concat | noExtension | uriDecode | file => true
  | _ => false

/-- Whether the nodes of a kind are atomic checks. -/
def NodeKind.isAtomic : NodeKind → Bool
  | comparison _ | any | regex | range | length | plain _ | identical | unique => true
  | dateTime | zonedDateTime | date | time | ukDate | composedDate | partialDate => true
  | fileExists | integrity | checksum | fileCount => true
  | _ => false

theorem readsOperand_of_map {action : Except Fault Operand}
    (h : action.map .operand = .ok part)
    (hread : ∀ operand, action = .ok operand → ReadsOperand kind parts operand) :
    ∃ operand, ReadsOperand kind parts operand ∧ part = .operand operand := by
  obtain ⟨operand, hoperand, rfl⟩ := map_eq_ok.1 h
  exact ⟨operand, hread operand hoperand, rfl⟩

theorem readsAtom_of_map {action : Except Fault Check} (h : action.map .check = .ok part)
    (hread : ∀ check, action = .ok check →
      ∃ atom, ReadsAtom slot kind parts atom ∧ check = .atom atom) :
    ∃ atom, ReadsAtom slot kind parts atom ∧ part = .check (.atom atom) := by
  obtain ⟨check, hcheck, rfl⟩ := map_eq_ok.1 h
  obtain ⟨atom, hatom, rfl⟩ := hread check hcheck
  exact ⟨atom, hatom, rfl⟩

theorem readsTest_of_map {action : Except Fault Check} (h : action.map .check = .ok part)
    (hread : ∀ check, action = .ok check →
      ∃ test, ReadsTest kind parts test ∧ check = .atom (.value test)) :
    ∃ atom, ReadsAtom slot kind parts atom ∧ part = .check (.atom atom) := by
  obtain ⟨check, hcheck, rfl⟩ := map_eq_ok.1 h
  obtain ⟨test, htest, rfl⟩ := hread check hcheck
  exact ⟨.value test, .value htest, rfl⟩

theorem NodeKind.readsOperand_of_reduce (hkind : kind.isOperand = true)
    (h : kind.reduce slot parts = .ok part) :
    ∃ operand, ReadsOperand kind parts operand ∧ part = .operand operand := by
  cases kind with
  | provided => exact readsOperand_of_map h fun _ => readsOperand_of_reduceProvided
  | reference => exact readsOperand_of_map h fun _ => readsOperand_of_reduceReference
  | concat => exact readsOperand_of_map h fun _ => readsOperand_of_reduceConcat
  | noExtension => exact readsOperand_of_map h fun _ => readsOperand_of_reduceNoExtension
  | uriDecode => exact readsOperand_of_map h fun _ => readsOperand_of_reduceUriDecode
  | file => exact readsOperand_of_map h fun _ => readsOperand_of_reduceFile
  | _ => cases hkind

theorem NodeKind.readsAtom_of_reduce (hkind : kind.isAtomic = true)
    (h : kind.reduce slot parts = .ok part) :
    ∃ atom, ReadsAtom slot kind parts atom ∧ part = .check (.atom atom) := by
  cases kind with
  | comparison relation => exact readsAtom_of_map h fun _ => readsAtom_of_reduceComparison
  | any => exact readsAtom_of_map h fun _ => readsAtom_of_reduceAny
  | regex => exact readsTest_of_map h fun _ => readsTest_of_reduceRegex
  | range => exact readsTest_of_map h fun _ => readsTest_of_reduceRange
  | length => exact readsTest_of_map h fun _ => readsTest_of_reduceLength
  | plain test => exact readsTest_of_map h fun _ => readsTest_of_reducePlain
  | identical => exact readsAtom_of_map h fun _ => readsAtom_of_reduceIdentical
  | unique => exact readsAtom_of_map h fun _ => readsAtom_of_reduceUnique
  | dateTime => exact readsTest_of_map h fun _ => readsTest_of_reduceBounded .dateTime
  | zonedDateTime => exact readsTest_of_map h fun _ => readsTest_of_reduceBounded .zonedDateTime
  | date => exact readsTest_of_map h fun _ => readsTest_of_reduceBounded .date
  | time => exact readsTest_of_map h fun _ => readsTest_of_reduceBounded .time
  | ukDate => exact readsTest_of_map h fun _ => readsTest_of_reduceBounded .ukDate
  | composedDate => exact readsAtom_of_map h fun _ => readsAtom_of_reduceComposedDate
  | partialDate => exact readsAtom_of_map h fun _ => readsAtom_of_reducePartialDate
  | fileExists => exact readsAtom_of_map h fun _ => readsAtom_of_reduceFileExists
  | integrity => exact readsAtom_of_map h fun _ => readsAtom_of_reduceIntegrity
  | checksum => exact readsAtom_of_map h fun _ => readsAtom_of_reduceChecksum
  | fileCount => exact readsAtom_of_map h fun _ => readsAtom_of_reduceFileCount
  | _ => cases hkind

end Nodes

section Slots

variable {slot : Nat} {parts : List Part} {kind : NodeKind} {atom : Atom}

/-- An atomic check has the slots that a node of its kind takes. -/
theorem ReadsAtom.slots_eq (h : ReadsAtom slot kind parts atom) :
    atom.slots = List.range' slot kind.slots := by
  cases h with
  | value h => cases h <;> rfl
  | _ => rfl

/-- With another slot the same atomic check is read, but for the slot. -/
theorem ReadsAtom.reduce_mapSlots (h : ReadsAtom slot kind parts atom)
    (hmade : kind.reduce slot parts = .ok (.check (.atom atom))) (f : Nat → Nat) :
    kind.reduce (f slot) parts = .ok (.check (.atom (atom.mapSlots f))) := by
  cases h with
  | value h => cases h <;> exact hmade
  -- Three kinds of nodes look at the slot, and each of them only passes it on.
  | unique h =>
      simp only [NodeKind.reduce, reduceUnique, h]
      rfl
  | identical => rfl
  | integrity hfolder hsubfolder hnone hrule =>
      cases hfolder with
      | omitted =>
          obtain rfl := hnone rfl
          cases hsubfolder
          simp only [NodeKind.reduce, reduceIntegrity, List.nil_append, hrule]
          rfl
      | given hfolder =>
          cases hsubfolder with
          | omitted =>
              simp only [NodeKind.reduce, reduceIntegrity, List.cons_append, List.nil_append,
                hfolder, hrule]
              rfl
          | given hsubfolder =>
              simp only [NodeKind.reduce, reduceIntegrity, List.cons_append, List.nil_append,
                hfolder, hsubfolder, hrule]
              rfl
  | _ => exact hmade

end Slots

section Directives

variable {parts : List Part}

theorem reduceFlag_eq_ok_iff {α : Type} {flag result : α} :
    reduceFlag flag parts = .ok result ↔ parts = [] ∧ result = flag := by
  cases parts with
  | nil => simp [reduceFlag, eq_comm]
  | cons part rest => simp [reduceFlag, wrongCount]

theorem reduceValued_eq_ok_iff {read : String → Except Fault GlobalSetting}
    {setting : GlobalSetting} :
    reduceValued read parts = .ok setting ↔
      ∃ raw, parts = [.token raw] ∧ read raw = .ok setting := by
  match parts with
  | [] => simp [reduceValued, wrongCount]
  | [part] => simp [reduceValued, bind_eq_ok, Part.asToken_eq_ok_iff]
  | _ :: _ :: _ => simp [reduceValued, wrongCount]

theorem allPlain_of_reduceSetting {directive : GlobalDirective} {setting : GlobalSetting}
    (h : reduceSetting directive parts = .ok setting) : AllPlain parts := by
  cases directive with
  -- Two directives have a value, the others are flags.
  | separator | totalColumns =>
      obtain ⟨raw, rfl, -⟩ := reduceValued_eq_ok_iff.1 h
      exact (allPlain_cons _ _).2 ⟨rfl, allPlain_nil.2 trivial⟩
  | _ =>
      obtain ⟨rfl, -⟩ := reduceFlag_eq_ok_iff.1 h
      exact allPlain_nil.2 trivial

theorem allPlain_of_foldlM_addSetting {state result : FileSettings × List GlobalDirective}
    (h : parts.foldlM addSetting state = .ok result) : AllPlain parts := by
  induction parts generalizing state with
  | nil => exact allPlain_nil.2 trivial
  | cons part rest ih =>
      obtain ⟨next, hnext, hrest⟩ := bind_eq_ok.1 h
      obtain ⟨setting, hsetting, -⟩ := bind_eq_ok.1 hnext
      exact (allPlain_cons part rest).2 ⟨Part.isPlain_of_asSetting hsetting, ih hrest⟩

theorem allPlain_of_reduceSettings {settings : FileSettings}
    (h : reduceSettings parts = .ok settings) : AllPlain parts := by
  obtain ⟨state, hstate, -⟩ := bind_eq_ok.1 h
  exact allPlain_of_foldlM_addSetting hstate

theorem allPlain_of_reduceColumnSettings {settings : ColumnSettings}
    (h : reduceColumnSettings parts = .ok settings) : AllPlain parts := by
  obtain ⟨directives, hdirectives, -⟩ := bind_eq_ok.1 h
  exact of_mapM_eq_ok (fun _ _ => Part.isPlain_of_asColumnDirective) hdirectives

theorem eq_nil_of_refuseRest (h : refuseRest parts = .ok ()) : parts = [] := by
  cases parts with
  | nil => rfl
  | cons part rest => cases h

/-- The settings that may stand at the end of some parts. -/
inductive SettingsTail {α : Type} (make : α → Part) (initial : α) : List Part → α → Prop
  | omitted : SettingsTail make initial [] initial
  | given (settings : α) : SettingsTail make initial [make settings] settings

theorem SettingsTail.allPlain {α : Type} {make : α → Part} {initial settings : α}
    (hmake : ∀ a, (make a).isPlain = true) (h : SettingsTail make initial parts settings) :
    AllPlain parts := by
  cases h with
  | omitted => exact allPlain_nil.2 trivial
  | given settings => exact (allPlain_cons _ _).2 ⟨hmake _, allPlain_nil.2 trivial⟩

theorem settingsTail_of_splitSettings (h : refuseRest (splitSettings parts).2 = .ok ()) :
    SettingsTail .settings .initial parts (splitSettings parts).1 := by
  have hnil := eq_nil_of_refuseRest h
  unfold splitSettings at hnil ⊢
  split at hnil
  · simp only at hnil
    subst hnil
    exact .given _
  · simp only at hnil
    subst hnil
    exact .omitted

theorem of_reduceProlog {part : Part} (h : reduceProlog parts = .ok part) :
    ∃ raw version tail settings, SettingsTail .settings .initial tail settings ∧
      parts = .token raw :: tail ∧ part = .prolog version settings := by
  unfold reduceProlog at h
  split at h
  · rename_i raw rest
    generalize Text.declaredVersion raw = text at h
    cases hversion : Version.ofText? text with
    | none => simp only [hversion, throw_eq_ok] at h
    | some version =>
        simp only [hversion] at h
        obtain ⟨nothing, hrest, hpart⟩ := bind_eq_ok.1 h
        rw [← pure_eq_ok.1 hpart]
        exact ⟨raw, version, rest, _, settingsTail_of_splitSettings hrest, rfl, rfl⟩
  · cases h

theorem allPlain_of_reduceProlog {part : Part} (h : reduceProlog parts = .ok part) :
    AllPlain parts ∧ part.isPlain = true := by
  obtain ⟨raw, version, tail, settings, htail, rfl, rfl⟩ := of_reduceProlog h
  exact ⟨(allPlain_cons _ _).2 ⟨rfl, htail.allPlain fun _ => rfl⟩, rfl⟩

end Directives

end CsvSchema
