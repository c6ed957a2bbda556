import CsvSchema.Run.OperandValue
import CsvSchema.Proofs.Rendering.Phrases
import CsvSchema.Proofs.WellFormed.Basic

/-!
# The phrases of operands

An operand is written as one phrase.  What it evaluates to is determined by that phrase,
`Operand.evaluate_eq_of_phrase_eq`, although the operand itself is not: one that only provides
another one is written like that one.
-/

namespace CsvSchema

mutual

/-- The phrase of an operand. -/
def Operand.phrase : Operand → Phrase
  | .column name => .reference name
  | .literal text => .quoted text
  | .provided inner => inner.phrase
  | .concat parts => .call "concat" (operandArguments parts)
  | .noExtension inner => .call "noExt" [[inner.phrase]]
  | .uriDecode value none => .call "uriDecode" [[value.phrase]]
  | .uriDecode value (some encoding) => .call "uriDecode" [[value.phrase], [encoding.phrase]]
  | .file none file => .call "file" [[file.phrase]]
  | .file (some folder) file => .call "file" [[folder.phrase], [file.phrase]]

/-- The arguments that operands are written as. -/
def operandArguments : List Operand → List (List Phrase)
  | [] => []
  | operand :: rest => [operand.phrase] :: operandArguments rest

end

theorem operandArguments_eq_map (operands : List Operand) :
    operandArguments operands = operands.map fun operand => [operand.phrase] := by
  induction operands with
  | nil => rfl
  | cons operand rest ih => rw [operandArguments, ih, List.map_cons]

section Texts

mutual

/-- The text of an operand is that of its phrase. -/
theorem Operand.text_eq (operand : Operand) : operand.text = operand.phrase.text := by
  cases operand with
  | column name => rfl
  | literal text => rfl
  | provided inner =>
      simp only [Operand.text, Operand.phrase]
      exact inner.text_eq
  | concat parts =>
      simp only [Operand.text, Operand.phrase, Phrase.text, operandTexts_eq parts]
      rfl
  | noExtension inner =>
      simp only [Operand.text, Operand.phrase, Phrase.text, inner.text_eq]
      rfl
  -- Texts in parentheses are put together here as a whole, there argument by argument.
  | uriDecode value encoding =>
      cases encoding with
      | none =>
          simp only [Operand.text, Operand.phrase, Phrase.text, value.text_eq]
          rfl
      | some encoding =>
          simp only [Operand.text, Operand.phrase, Phrase.text, value.text_eq, encoding.text_eq,
            Atom.call, argumentTexts, Text.joinWith, ← String.append_assoc]
          rfl
  | file folder file =>
      cases folder with
      | none =>
          simp only [Operand.text, Operand.phrase, Phrase.text, file.text_eq]
          rfl
      | some folder =>
          simp only [Operand.text, Operand.phrase, Phrase.text, folder.text_eq, file.text_eq,
            Atom.call, argumentTexts, Text.joinWith, ← String.append_assoc]
          rfl

theorem operandTexts_eq (operands : List Operand) :
    operandTexts operands = argumentTexts (operandArguments operands) := by
  cases operands with
  | nil => rfl
  | cons operand rest =>
      rw [operandTexts, operandArguments, argumentTexts_cons, phrasesText_singleton,
        operand.text_eq, operandTexts_eq rest]

end

end Texts

section Reading

/-- The operand that is written as a call. -/
def Operand.ofCall (keyword : String) (operands : List Operand) : Operand :=
  match operands with
  | [first] =>
      if keyword = "noExt" then .noExtension first
      else if keyword = "uriDecode" then .uriDecode first none
      else if keyword = "file" then .file none first
      else .concat operands
  | [first, second] =>
      if keyword = "uriDecode" then .uriDecode first (some second)
      else if keyword = "file" then .file (some first) second
      else .concat operands
  | _ => .concat operands

mutual

/-- The operand that a phrase is read as.  Only phrases of operands matter. -/
def Operand.ofPhrase : Phrase → Operand
  | .reference name => .column name
  | .quoted text => .literal text
  | .call keyword arguments => .ofCall keyword (operandsOfArguments arguments)
  | .word text => .literal text
  | .within _ phrase => .ofPhrase phrase

/-- The operands that arguments are read as. -/
def operandsOfArguments : List (List Phrase) → List Operand
  | [] => []
  | argument :: rest => operandsOfPhrases argument ++ operandsOfArguments rest

/-- The operands that phrases are read as. -/
def operandsOfPhrases : List Phrase → List Operand
  | [] => []
  | phrase :: rest => .ofPhrase phrase :: operandsOfPhrases rest

end

variable (settings : FileSettings) (row : Row)

theorem evaluateOperands_congr {operands₁ operands₂ : List Operand}
    (h : operands₁.map (Operand.evaluate settings row) =
      operands₂.map (Operand.evaluate settings row)) :
    evaluateOperands settings row operands₁ = evaluateOperands settings row operands₂ := by
  induction operands₁ generalizing operands₂ with
  | nil =>
      rw [List.map_eq_nil_iff.1 h.symm]
  | cons operand₁ rest₁ ih =>
      obtain ⟨operand₂, rest₂, rfl, hoperand, hrest⟩ := List.map_eq_cons_iff.1 h.symm
      rw [evaluateOperands, evaluateOperands, hoperand, ih hrest.symm]

mutual

/-- Reading the phrase of an operand gives an operand with the same texts. -/
theorem Operand.evaluate_ofPhrase (operand : Operand) :
    (Operand.ofPhrase operand.phrase).evaluate settings row = operand.evaluate settings row := by
  cases operand with
  | column name => rfl
  | literal text => rfl
  | provided inner =>
      simp only [Operand.phrase, Operand.evaluate]
      exact inner.evaluate_ofPhrase
  | concat parts =>
      have hparts := map_evaluate_operandsOfArguments parts
      have hcall : ∀ operands, Operand.ofCall "concat" operands = .concat operands := by
        intro operands
        unfold Operand.ofCall
        split <;> simp
      simp only [Operand.phrase, Operand.ofPhrase, hcall, Operand.evaluate,
        evaluateOperands_congr settings row hparts]
  | noExtension inner =>
      simp [Operand.phrase, Operand.ofPhrase, operandsOfArguments, operandsOfPhrases,
        Operand.ofCall, Operand.evaluate, inner.evaluate_ofPhrase]
  | uriDecode value encoding =>
      cases encoding with
      | none =>
          simp [Operand.phrase, Operand.ofPhrase, operandsOfArguments, operandsOfPhrases,
            Operand.ofCall, Operand.evaluate, value.evaluate_ofPhrase]
      | some encoding =>
          simp [Operand.phrase, Operand.ofPhrase, operandsOfArguments, operandsOfPhrases,
            Operand.ofCall, Operand.evaluate, value.evaluate_ofPhrase, encoding.evaluate_ofPhrase]
  | file folder file =>
      cases folder with
      | none =>
          simp [Operand.phrase, Operand.ofPhrase, operandsOfArguments, operandsOfPhrases,
            Operand.ofCall, Operand.evaluate, file.evaluate_ofPhrase]
      | some folder =>
          simp [Operand.phrase, Operand.ofPhrase, operandsOfArguments, operandsOfPhrases,
            Operand.ofCall, Operand.evaluate, folder.evaluate_ofPhrase, file.evaluate_ofPhrase]

theorem map_evaluate_operandsOfArguments (operands : List Operand) :
    (operandsOfArguments (operandArguments operands)).map (Operand.evaluate settings row) =
      operands.map (Operand.evaluate settings row) := by
  cases operands with
  | nil => rfl
  | cons operand rest =>
      simp [operandArguments, operandsOfArguments, operandsOfPhrases, operand.evaluate_ofPhrase,
        map_evaluate_operandsOfArguments rest]

end

/-- Operands with the same phrase have the same texts. -/
theorem Operand.evaluate_eq_of_phrase_eq {operand₁ operand₂ : Operand}
    (h : operand₁.phrase = operand₂.phrase) :
    operand₁.evaluate settings row = operand₂.evaluate settings row := by
  rw [← operand₁.evaluate_ofPhrase, h, operand₂.evaluate_ofPhrase]

end Reading

/-- The text of an operand shows where its parts end: names have no characters in them that stand
behind a name, and literals no quotes. -/
inductive Operand.IsLegible : Operand → Prop
  | column {name : String} (h : ∀ c ∈ name.toList, isNameChar c = true) : IsLegible (.column name)
  | literal {text : String} (h : '"' ∉ text.toList) : IsLegible (.literal text)
  | provided {inner : Operand} (h : IsLegible inner) : IsLegible (.provided inner)
  | concat {parts : List Operand} (h : ∀ part ∈ parts, IsLegible part) : IsLegible (.concat parts)
  | noExtension {inner : Operand} (h : IsLegible inner) : IsLegible (.noExtension inner)
  | uriDecode {value : Operand} {encoding : Option Operand} (hvalue : IsLegible value)
      (hencoding : ∀ operand ∈ encoding, IsLegible operand) :
      IsLegible (.uriDecode value encoding)
  | file {folder : Option Operand} {file : Operand}
      (hfolder : ∀ operand ∈ folder, IsLegible operand) (hfile : IsLegible file) :
      IsLegible (.file folder file)

/-- A well-formed operand with a legible text can be read back from it. -/
theorem Operand.isReadable_phrase {operand : Operand} (hwell : operand.WellFormed)
    (h : operand.IsLegible) : operand.phrase.IsReadable := by
  induction h with
  | column h => exact .reference h
  | literal h => exact .quoted h
  | provided _ ih =>
      cases hwell with
      | provided hwell =>
          simp only [Operand.phrase]
          exact ih hwell
  | @concat parts _ ih =>
      cases hwell with
      | concat hne hwell =>
          simp only [Operand.phrase]
          refine isReadable_call (isWordChar_of_all (by decide)) ?_ fun argument hargument => ?_
          · rw [operandArguments_eq_map]
            exact fun hnil => hne (List.map_eq_nil_iff.1 hnil)
          · rw [operandArguments_eq_map] at hargument
            obtain ⟨part, hpart, rfl⟩ := List.mem_map.1 hargument
            exact .singleton (ih part hpart (hwell part hpart))
  | noExtension _ ih =>
      cases hwell with
      | noExtension hwell =>
          simp only [Operand.phrase]
          exact isReadable_call (isWordChar_of_all (by decide)) (List.cons_ne_nil _ _)
            (List.forall_mem_singleton.2 (.singleton (ih hwell)))
  | @uriDecode value encoding _ _ ihvalue ihencoding =>
      cases hwell with
      | uriDecode hvalue hencoding =>
          cases encoding with
          | none =>
              simp only [Operand.phrase]
              exact isReadable_call (isWordChar_of_all (by decide)) (List.cons_ne_nil _ _)
                (List.forall_mem_singleton.2 (.singleton (ihvalue hvalue)))
          | some encoding =>
              simp only [Operand.phrase]
              refine isReadable_call (isWordChar_of_all (by decide)) (List.cons_ne_nil _ _) ?_
              rw [List.forall_mem_cons, List.forall_mem_singleton]
              exact ⟨.singleton (ihvalue hvalue),
                .singleton (ihencoding encoding rfl (hencoding encoding rfl))⟩
  | @file folder file _ _ ihfolder ihfile =>
      cases hwell with
      | file hfolder hfile =>
          cases folder with
          | none =>
              simp only [Operand.phrase]
              exact isReadable_call (isWordChar_of_all (by decide)) (List.cons_ne_nil _ _)
                (List.forall_mem_singleton.2 (.singleton (ihfile hfile)))
          | some folder =>
              simp only [Operand.phrase]
              refine isReadable_call (isWordChar_of_all (by decide)) (List.cons_ne_nil _ _) ?_
              rw [List.forall_mem_cons, List.forall_mem_singleton]
              exact ⟨.singleton (ihfolder folder rfl (hfolder folder rfl)),
                .singleton (ihfile hfile)⟩

end CsvSchema
