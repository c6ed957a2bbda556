import CsvSchema.Run.Atomic
import CsvSchema.Proofs.Rendering.Tests
import CsvSchema.Proofs.Rendering.Operands
import CsvSchema.Proofs.Slots.Renaming

/-!
# The phrases of atomic checks

An atomic check is written as one phrase, which starts with a keyword and has the operands of the
check for its first arguments.  What the check decides is determined by the phrase and by its slot,
`Atom.evaluate_eq_of_phrase_eq`.
-/

namespace CsvSchema

open Calendar (Date)

theorem Relation.keyword_injective {relation₁ relation₂ : Relation}
    (h : relation₁.keyword = relation₂.keyword) : relation₁ = relation₂ := by
  cases relation₁ <;> cases relation₂ <;> first | rfl | simp [keyword] at h

theorem FolderRule.text_injective {rule₁ rule₂ : FolderRule} (h : rule₁.text = rule₂.text) :
    rule₁ = rule₂ := by
  cases rule₁ <;> cases rule₂ <;> first | rfl | simp [text] at h

theorem HashAlgorithm.name_injective {algorithm₁ algorithm₂ : HashAlgorithm}
    (h : algorithm₁.name = algorithm₂.name) : algorithm₁ = algorithm₂ := by
  cases algorithm₁ <;> cases algorithm₂ <;> first | rfl | simp [name] at h

namespace Atom

/-- The keyword of an atomic check. -/
def keyword : Atom → String
  | value test => test.keyword
  | compare relation _ => relation.keyword
  | any _ => "any"
  | composedDate _ _ _ _ => "date"
  | partialDate _ _ _ => "partDate"
  | unique _ _ => "unique"
  | identical _ => "identical"
  | fileExists _ => "fileExists"
  | integrity _ _ _ _ => "integrityCheck"
  | checksum _ _ => "checksum"
  | fileCount _ => "fileCount"

/-- The operands of an atomic check. -/
def operands : Atom → List Operand
  | compare _ operand => [operand]
  | any operands => operands
  | composedDate year month day _ => [year, month, day]
  | partialDate year month day => [year, month, day]
  | fileExists folder => folder.toList
  | integrity folder subfolder _ _ => folder.toList ++ subfolder.toList
  | checksum file _ => [file]
  | fileCount folder => [folder]
  | _ => []

/-- The arguments of an atomic check behind its operands. -/
def otherArguments : Atom → List (List Phrase)
  | composedDate _ _ _ bounds => bounds.writtenArguments (oneWord Date.text)
  | unique columns _ => columns.map fun column => [.reference column]
  | integrity _ _ rule _ => [[.quoted rule.text]]
  | checksum _ algorithm => [[.quoted algorithm.name]]
  | _ => []

/-- The phrase of an atomic check. -/
def phrase : Atom → Phrase
  | value test => test.phrase
  | atom => .withArguments atom.keyword (operandArguments atom.operands ++ atom.otherArguments)

/-- What holds of an atomic check that has been read from a schema, besides being well formed. -/
def IsRead : Atom → Prop
  | value test => test.IsRead
  | integrity folder subfolder _ _ => folder = none → subfolder = none
  | _ => True

/-- The text of an atomic check shows where its arguments end. -/
structure IsLegible (atom : Atom) : Prop where
  operands : ∀ operand ∈ atom.operands, operand.IsLegible
  /-- The names of columns have no characters in them that stand behind a name. -/
  columns : ∀ columns slot, atom = unique columns slot →
    ∀ name ∈ columns, ∀ c ∈ name.toList, isNameChar c = true
  test : ∀ test, atom = value test → test.IsLegible

variable {atom atom₁ atom₂ : Atom}

theorem wellFormed_of_mem_operands (h : atom.WellFormed) :
    ∀ operand ∈ atom.operands, operand.WellFormed := by
  cases atom with
  | compare relation operand => exact List.forall_mem_singleton.2 h
  | any operands => exact h.2
  | composedDate year month day bounds => simpa [operands] using ⟨h.1, h.2.1, h.2.2.1⟩
  | partialDate year month day => simpa [operands] using ⟨h.1, h.2.1, h.2.2⟩
  | fileExists folder => simpa [operands] using fun operand => h operand
  | integrity folder subfolder rule slot =>
      simp only [operands, List.forall_mem_append, Option.mem_toList]
      exact ⟨h.1, h.2⟩
  | checksum file algorithm => exact List.forall_mem_singleton.2 h
  | fileCount folder => exact List.forall_mem_singleton.2 h
  | _ => simp [operands]

section Keywords

theorem keyword?_phrase (atom : Atom) : atom.phrase.keyword? = some atom.keyword := by
  cases atom with
  | value test => exact test.keyword?_phrase
  | _ => exact Phrase.keyword?_withArguments _ _

theorem keyword_ne_nil (atom : Atom) : atom.keyword.toList ≠ [] := by
  cases atom with
  | value test => exact test.keyword_ne_nil
  | compare relation operand => cases relation <;> simp [keyword, Relation.keyword]
  | _ => simp [keyword]

theorem isWordChar_keyword (atom : Atom) :
    ∀ c ∈ atom.keyword.toList, isWordChar c = true := by
  cases atom with
  | value test => exact test.isWordChar_keyword
  | compare relation operand => cases relation <;> simp [keyword, Relation.keyword, isWordChar]
  | _ => simp [keyword, isWordChar]

/-- The keywords of atomic checks other than tests, those that stand for checks of one kind
together. -/
def keywordGroups : List (List String) :=
  [["is", "not", "in", "starts", "ends"], ["any"], ["date"], ["partDate"], ["unique"],
    ["identical"], ["fileExists"], ["integrityCheck"], ["checksum"], ["fileCount"]]

/-- The number of the group that a keyword is in. -/
def groupOf (keyword : String) : Nat := keywordGroups.findIdx (·.contains keyword)

/-- The number of the group of an atomic check. -/
def group : Atom → Nat
  | compare _ _ => 0
  | any _ => 1
  | composedDate _ _ _ _ => 2
  | partialDate _ _ _ => 3
  | unique _ _ => 4
  | identical _ => 5
  | fileExists _ => 6
  | integrity _ _ _ _ => 7
  | checksum _ _ => 8
  | fileCount _ => 9
  | value _ => 10

theorem groupOf_keyword (atom : Atom) : groupOf atom.keyword = atom.group := by
  cases atom with
  | value test => cases test <;> (simp only [keyword, ValueTest.keyword, group]; decide)
  | compare relation operand =>
      cases relation <;> (simp only [keyword, Relation.keyword, group]; decide)
  | _ =>
      simp only [keyword, group]
      decide

end Keywords

section Texts

/-- The text of an atomic check is that of its phrase. -/
theorem text_eq (h : atom.WellFormed) : atom.text = atom.phrase.text := by
  cases atom with
  | value test => exact test.text_eq
  | compare relation operand =>
      simp only [text, operand.text_eq]
      rfl
  | any operands =>
      have hne : (operandArguments operands).isEmpty = false := by
        rw [operandArguments_eq_map, List.isEmpty_eq_false_iff]
        exact fun hnil => h.1 (List.map_eq_nil_iff.1 hnil)
      simp only [text, phrase, Atom.operands, otherArguments, List.append_nil,
        Phrase.withArguments, hne, operandTexts_eq]
      rfl
  | composedDate year month day bounds =>
      simp only [text, phrase, Atom.operands, otherArguments, operandArguments,
        Bounds.writtenArguments, year.text_eq, month.text_eq, day.text_eq]
      split
      · rfl
      · simp [Bounds.text, Bounds.boundText_eq wording_date, Phrase.withArguments, Phrase.text,
          keyword, call, Bounds.arguments, argumentTexts_eq_map, Text.joinWith,
          String.append_assoc]
  | partialDate year month day =>
      simp only [text, year.text_eq, month.text_eq, day.text_eq]
      rfl
  | unique columns slot =>
      have hcolumns : argumentTexts (columns.map fun column => [.reference column]) =
          columns.map ("$" ++ ·) := by
        rw [argumentTexts_eq_map, List.map_map]
        rfl
      simp only [text, phrase, Atom.operands, otherArguments, operandArguments, List.nil_append,
        Phrase.withArguments, List.isEmpty_map]
      split
      · rfl
      · rw [Phrase.text, hcolumns]
        rfl
  | identical slot => rfl
  | fileExists folder =>
      cases folder with
      | none => rfl
      | some folder =>
          simp only [text, folder.text_eq]
          rfl
  | integrity folder subfolder rule slot =>
      have harguments : optionalText folder ++ optionalText subfolder ++
          ["\"" ++ rule.text ++ "\""] = argumentTexts (operandArguments (folder.toList ++
            subfolder.toList) ++ [[.quoted rule.text]]) := by
        cases folder <;> cases subfolder <;>
          simp [optionalText, operandArguments, argumentTexts_eq_map, Operand.text_eq, Phrase.text]
      simp only [text, harguments, phrase, Atom.operands, otherArguments]
      rw [Phrase.withArguments, if_neg (by simp), Phrase.text]
      rfl
  | checksum file algorithm =>
      simp only [text, file.text_eq]
      rfl
  | fileCount folder =>
      simp only [text, folder.text_eq]
      rfl

/-- A well-formed atomic check with a legible text can be read back from it. -/
theorem isReadable_phrase (hwell : atom.WellFormed) (h : atom.IsLegible) :
    atom.phrase.IsReadable := by
  have hoperands : ∀ argument ∈ operandArguments atom.operands, AreReadable argument := by
    rw [operandArguments_eq_map, List.forall_mem_map]
    exact fun operand hmem => .singleton
      (operand.isReadable_phrase (wellFormed_of_mem_operands hwell operand hmem)
        (h.operands operand hmem))
  have hothers : ∀ argument ∈ atom.otherArguments, AreReadable argument := by
    cases atom with
    | composedDate year month day bounds =>
        exact Bounds.areReadable_writtenArguments wording_date bounds
    | unique columns slot =>
        rw [otherArguments, List.forall_mem_map]
        exact fun name hname => .singleton (.reference (h.columns columns slot rfl name hname))
    | integrity folder subfolder rule slot =>
        rw [otherArguments, List.forall_mem_singleton]
        exact .singleton (.quoted (by cases rule <;> decide))
    | checksum file algorithm =>
        rw [otherArguments, List.forall_mem_singleton]
        exact .singleton (.quoted (by cases algorithm <;> decide))
    | _ => simp [otherArguments]
  have harguments : (Phrase.withArguments atom.keyword
      (operandArguments atom.operands ++ atom.otherArguments)).IsReadable :=
    isReadable_withArguments atom.keyword_ne_nil atom.isWordChar_keyword
      (List.forall_mem_append.2 ⟨hoperands, hothers⟩)
  cases atom with
  | value test => exact test.isReadable_phrase (h.test test rfl)
  | _ => exact harguments

end Texts

section Evaluation

variable {scope : Scope}

theorem operand_eq {operand₁ operand₂ : Operand} (h : operand₁.phrase = operand₂.phrase) :
    scope.operand operand₁ = scope.operand operand₂ :=
  Operand.evaluate_eq_of_phrase_eq _ _ h

theorem operandOr_eq {operand₁ operand₂ : Option Operand}
    (h : operandArguments operand₁.toList = operandArguments operand₂.toList) (default : String) :
    scope.operandOr default operand₁ = scope.operandOr default operand₂ := by
  cases operand₁ with
  | none =>
      cases operand₂ with
      | none => rfl
      | some operand₂ => cases h
  | some operand₁ =>
      cases operand₂ with
      | none => cases h
      | some operand₂ =>
          simp only [Option.toList_some, operandArguments, List.cons.injEq, and_true] at h
          exact operand_eq h

theorem findAny_eq {operands₁ operands₂ : List Operand}
    (h : operandArguments operands₁ = operandArguments operands₂) (value : String) :
    findAny scope value operands₁ = findAny scope value operands₂ := by
  induction operands₁ generalizing operands₂ with
  | nil =>
      cases operands₂ with
      | nil => rfl
      | cons operand₂ rest₂ => cases h
  | cons operand₁ rest₁ ih =>
      cases operands₂ with
      | nil => cases h
      | cons operand₂ rest₂ =>
          simp only [operandArguments, List.cons.injEq, and_true] at h
          rw [findAny, findAny, operand_eq h.1, ih h.2]

/-- The arguments of two integrity checks that have been read.  A subfolder is only given behind a
folder. -/
theorem findReference_eq {folder₁ folder₂ subfolder₁ subfolder₂ : Option Operand}
    {rule₁ rule₂ : FolderRule} (h₁ : folder₁ = none → subfolder₁ = none)
    (h₂ : folder₂ = none → subfolder₂ = none)
    (h : operandArguments (folder₁.toList ++ subfolder₁.toList) ++ [[.quoted rule₁.text]] =
      operandArguments (folder₂.toList ++ subfolder₂.toList) ++ [[.quoted rule₂.text]])
    (value : String) (slot : Nat) :
    findReference scope value folder₁ subfolder₁ rule₁ slot =
      findReference scope value folder₂ subfolder₂ rule₂ slot := by
  obtain ⟨hoperands, hrules⟩ := List.append_inj' h rfl
  simp only [List.cons.injEq, Phrase.quoted.injEq, and_true] at hrules
  have hfolders : operandArguments folder₁.toList = operandArguments folder₂.toList ∧
      operandArguments subfolder₁.toList = operandArguments subfolder₂.toList := by
    cases folder₁ <;> cases folder₂ <;> cases subfolder₁ <;> cases subfolder₂ <;>
      simp_all [operandArguments]
  rw [FolderRule.text_injective hrules]
  simp only [findReference, operandOr_eq hfolders.1, operandOr_eq hfolders.2]

/-- What an atomic check that has been read decides is determined by its phrase and its slot. -/
theorem evaluate_eq_of_phrase_eq (h₁ : atom₁.IsRead) (h₂ : atom₂.IsRead)
    (h : atom₁.phrase = atom₂.phrase) (hslots : atom₁.slots = atom₂.slots) (value : String) :
    atom₁.evaluate scope value = atom₂.evaluate scope value := by
  have hkeyword : atom₁.keyword = atom₂.keyword := by
    have hkeywords := congrArg Phrase.keyword? h
    rw [keyword?_phrase, keyword?_phrase] at hkeywords
    exact Option.some.inj hkeywords
  have hgroup : atom₁.group = atom₂.group := by
    rw [← groupOf_keyword, hkeyword, groupOf_keyword]
  -- Atomic checks of different kinds have keywords of different groups.
  cases atom₁ <;> cases atom₂ <;> first | (simp [group] at hgroup; done) | skip
  case value.value test₁ test₂ => rw [ValueTest.eq_of_phrase_eq h₁ h₂ h]
  all_goals replace h := Phrase.withArguments_injective h
  case compare.compare relation₁ operand₁ relation₂ operand₂ =>
    simp only [operands, operandArguments, otherArguments, List.append_nil, List.cons.injEq,
      and_true] at h
    rw [Relation.keyword_injective hkeyword]
    simp only [evaluate, findComparison, operand_eq h]
  case any.any operands₁ operands₂ =>
    simp only [operands, otherArguments, List.append_nil] at h
    simp only [evaluate, findAny_eq h]
  case composedDate.composedDate year₁ month₁ day₁ bounds₁ year₂ month₂ day₂ bounds₂ =>
    simp only [operands, operandArguments, otherArguments, List.cons_append, List.nil_append,
      List.cons.injEq, and_true] at h
    obtain ⟨hyear, hmonth, hday, hbounds⟩ := h
    rw [Bounds.writtenArguments_injective wording_date (Bounds.each_true _) (Bounds.each_true _)
      hbounds]
    simp only [evaluate, findDate, operand_eq hyear, operand_eq hmonth, operand_eq hday]
  case partialDate.partialDate year₁ month₁ day₁ year₂ month₂ day₂ =>
    simp only [operands, operandArguments, otherArguments, List.append_nil, List.cons.injEq,
      and_true] at h
    obtain ⟨hyear, hmonth, hday⟩ := h
    simp only [evaluate, findDate, operand_eq hyear, operand_eq hmonth, operand_eq hday]
  case unique.unique columns₁ slot₁ columns₂ slot₂ =>
    simp only [operands, operandArguments, otherArguments, List.nil_append] at h
    obtain rfl := (List.map_inj_right (fun x y hxy => by simpa using hxy)).1 h
    cases hslots
    rfl
  case identical.identical slot₁ slot₂ =>
    cases hslots
    rfl
  case fileExists.fileExists folder₁ folder₂ =>
    simp only [operands, otherArguments, List.append_nil] at h
    simp only [evaluate, findFile, operandOr_eq h]
  case integrity.integrity folder₁ subfolder₁ rule₁ slot₁ folder₂ subfolder₂ rule₂ slot₂ =>
    cases hslots
    exact findReference_eq h₁ h₂ h value slot₁
  case checksum.checksum file₁ algorithm₁ file₂ algorithm₂ =>
    simp only [operands, operandArguments, otherArguments, List.cons_append, List.nil_append,
      List.cons.injEq, Phrase.quoted.injEq, and_true] at h
    rw [HashAlgorithm.name_injective h.2]
    simp only [evaluate, findChecksum, operand_eq h.1]
  case fileCount.fileCount folder₁ folder₂ =>
    simp only [operands, operandArguments, otherArguments, List.append_nil, List.cons.injEq,
      and_true] at h
    simp only [evaluate, findCount, operand_eq h]

end Evaluation

end Atom

end CsvSchema
