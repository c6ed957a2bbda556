import CsvSchema.Compilation
import CsvSchema.Proofs.Rendering.Built

/-!
# The lines of a schema

The text of a schema is read from its start: the version ends with its line, the lines of directives
are those that start with an at sign, and a line of a column ends where its phrases end.  So two
schemas with the same text have the same settings and columns with the same names, directives and
phrases, `Schema.writtenAlike_of_text_eq`.
-/

namespace CsvSchema

open List (Forall₂)

section Splitting

variable {α : Type} {first₁ first₂ rest₁ rest₂ : List α}

/-- A list of which the elements with a property come first is determined by its parts. -/
theorem eq_of_append_of_separated {p : α → Bool} (hfirst₁ : ∀ x ∈ first₁, p x = true)
    (hfirst₂ : ∀ x ∈ first₂, p x = true) (hrest₁ : ∀ x ∈ rest₁, p x = false)
    (hrest₂ : ∀ x ∈ rest₂, p x = false) (h : first₁ ++ rest₁ = first₂ ++ rest₂) :
    first₁ = first₂ ∧ rest₁ = rest₂ := by
  have hfirst : ∀ {first rest : List α}, (∀ x ∈ first, p x = true) → (∀ x ∈ rest, p x = false) →
      (first ++ rest).filter p = first := by
    intro first rest hfirst hrest
    have hnone : rest.filter p = [] := List.filter_eq_nil_iff.2 fun x hx => by simp [hrest x hx]
    rw [List.filter_append, List.filter_eq_self.2 hfirst, hnone, List.append_nil]
  have heq : first₁ = first₂ := by
    rw [← hfirst hfirst₁ hrest₁, h, hfirst hfirst₂ hrest₂]
  subst heq
  exact ⟨rfl, List.append_cancel_left h⟩

end Splitting

/-- The characters of some lines, each of which ends with a line feed. -/
def lineChars (lines : List String) : List Char := lines.flatMap fun line => line.toList ++ ['\n']

theorem lineChars_cons (line : String) (rest : List String) :
    lineChars (line :: rest) = line.toList ++ '\n' :: lineChars rest := by
  rw [lineChars, List.flatMap_cons, List.append_assoc]
  rfl

theorem lineChars_append (first rest : List String) :
    lineChars (first ++ rest) = lineChars first ++ lineChars rest :=
  List.flatMap_append

theorem Schema.toList_text (schema : Schema) : schema.text.toList = lineChars schema.lines := by
  rw [text, String.toList_join, List.flatMap_map, lineChars]
  congr 1
  funext line
  rw [String.toList_append]
  rfl

section Directives

/-- A line of a directive starts with an at sign, and it is one line. -/
def IsDirectiveLine (line : String) : Prop := line.toList.head? = some '@' ∧ '\n' ∉ line.toList

theorem IsDirectiveLine.head?_lineChars {line : String} (h : IsDirectiveLine line)
    (more : List String) (rest : List Char) :
    (lineChars (line :: more) ++ rest).head? = some '@' := by
  obtain ⟨tail, htail⟩ := List.head?_eq_some_iff.1 h.1
  rw [lineChars_cons, htail]
  rfl

/-- Lines of directives end where a line starts without an at sign. -/
theorem directives_eq {lines₁ lines₂ : List String} {rest₁ rest₂ : List Char}
    (h₁ : ∀ line ∈ lines₁, IsDirectiveLine line) (h₂ : ∀ line ∈ lines₂, IsDirectiveLine line)
    (hrest₁ : rest₁.head? ≠ some '@') (hrest₂ : rest₂.head? ≠ some '@')
    (h : lineChars lines₁ ++ rest₁ = lineChars lines₂ ++ rest₂) :
    lines₁ = lines₂ ∧ rest₁ = rest₂ := by
  induction lines₁ generalizing lines₂ with
  | nil =>
      cases lines₂ with
      | nil => exact ⟨rfl, h⟩
      | cons line₂ more₂ =>
          have hat : rest₁.head? = some '@' :=
            (congrArg List.head? h).trans
              ((h₂ line₂ List.mem_cons_self).head?_lineChars more₂ rest₂)
          exact absurd hat hrest₁
  | cons line₁ more₁ ih =>
      obtain ⟨hline₁, hmore₁⟩ := List.forall_mem_cons.1 h₁
      cases lines₂ with
      | nil =>
          have hat : rest₂.head? = some '@' :=
            (congrArg List.head? h).symm.trans (hline₁.head?_lineChars more₁ rest₁)
          exact absurd hat hrest₂
      | cons line₂ more₂ =>
          obtain ⟨hline₂, hmore₂⟩ := List.forall_mem_cons.1 h₂
          -- A line ends with the first line feed, so the lines in front are the same.
          rw [lineChars_cons, lineChars_cons, List.append_assoc, List.append_assoc,
            List.cons_append, List.cons_append] at h
          obtain ⟨hline, hrest⟩ := Text.eq_of_first h hline₁.2 hline₂.2
          obtain ⟨rfl, hrests⟩ := ih hmore₁ hmore₂ hrest
          rw [String.toList_inj.1 hline]
          exact ⟨rfl, hrests⟩

namespace FileSettings

variable (settings : FileSettings)

/-- The lines of one directive. -/
def linesOf : GlobalDirective → List String
  | .separator => whenSet (settings.separator != ',')
      (GlobalDirective.separator.keyword ++
        if settings.separator == '\t' then " TAB"
        else " '" ++ String.singleton settings.separator ++ "'")
  | .quoted => whenSet settings.quoted GlobalDirective.quoted.keyword
  | .totalColumns => (settings.totalColumns.map fun total =>
      GlobalDirective.totalColumns.keyword ++ " " ++ Decimal.natText total).toList
  | .permitEmpty => whenSet settings.permitEmpty GlobalDirective.permitEmpty.keyword
  | .noHeader => whenSet settings.noHeader GlobalDirective.noHeader.keyword
  | .ignoreColumnNameCase =>
      whenSet settings.ignoreColumnNameCase GlobalDirective.ignoreColumnNameCase.keyword

theorem lines_eq_flatMap : settings.lines = GlobalDirective.all.flatMap settings.linesOf := by
  simp only [lines, GlobalDirective.all, List.flatMap_cons, List.flatMap_nil, linesOf,
    List.append_nil, List.append_assoc]

theorem mem_whenSet {isSet : Bool} {text line : String} (h : line ∈ whenSet isSet text) :
    line = text := by
  cases isSet with
  | true => exact List.mem_singleton.1 h
  | false => cases h

/-- What a line of a directive starts with. -/
theorem exists_of_mem_linesOf {directive : GlobalDirective} {line : String}
    (h : line ∈ settings.linesOf directive) : ∃ rest, line = directive.keyword ++ rest := by
  cases directive with
  | separator => exact ⟨_, mem_whenSet h⟩
  | totalColumns =>
      obtain ⟨total, -, rfl⟩ := Option.map_eq_some_iff.1 (Option.mem_toList.1 h)
      exact ⟨" " ++ Decimal.natText total, String.append_assoc⟩
  | _ => exact ⟨"", by rw [mem_whenSet h, String.append_empty]⟩

/-- The second character of a line, which tells directives apart. -/
def markOf (line : String) : Option Char := line.toList[1]?

theorem markOf_of_mem_linesOf {directive : GlobalDirective} {line : String}
    (h : line ∈ settings.linesOf directive) : markOf line = markOf directive.keyword := by
  obtain ⟨rest, rfl⟩ := settings.exists_of_mem_linesOf h
  cases directive <;> simp [markOf, GlobalDirective.keyword]

theorem markOf_keyword_injective {directive₁ directive₂ : GlobalDirective}
    (h : markOf directive₁.keyword = markOf directive₂.keyword) : directive₁ = directive₂ := by
  cases directive₁ <;> cases directive₂ <;>
    first | rfl | simp [markOf, GlobalDirective.keyword] at h

/-- The lines of a directive are those with its mark. -/
theorem filter_lines (directive : GlobalDirective) :
    settings.lines.filter (markOf · == markOf directive.keyword) = settings.linesOf directive := by
  have hfilter : ∀ other : GlobalDirective,
      (settings.linesOf other).filter (markOf · == markOf directive.keyword) =
        if other = directive then settings.linesOf directive else [] := by
    intro other
    split
    · rename_i heq
      rw [heq, List.filter_eq_self]
      exact fun line hline => beq_iff_eq.2 (settings.markOf_of_mem_linesOf hline)
    · rename_i hne
      rw [List.filter_eq_nil_iff]
      intro line hline
      rw [settings.markOf_of_mem_linesOf hline, beq_iff_eq]
      exact fun hmark => hne (markOf_keyword_injective hmark)
  rw [lines_eq_flatMap, List.filter_flatMap]
  simp only [hfilter]
  cases directive <;> simp [GlobalDirective.all]

theorem whenSet_injective {isSet₁ isSet₂ : Bool} {text : String}
    (h : whenSet isSet₁ text = whenSet isSet₂ text) : isSet₁ = isSet₂ := by
  cases isSet₁ <;> cases isSet₂ <;> first | rfl | simp [whenSet] at h

variable {settings} {settings₁ settings₂ : FileSettings}

theorem separator_eq_of_linesOf_eq
    (h : settings₁.linesOf .separator = settings₂.linesOf .separator) :
    settings₁.separator = settings₂.separator := by
  simp only [linesOf] at h
  generalize settings₁.separator = mark₁ at h
  generalize settings₂.separator = mark₂ at h
  by_cases hcomma₁ : mark₁ = ','
  · by_cases hcomma₂ : mark₂ = ','
    · rw [hcomma₁, hcomma₂]
    · simp [whenSet, hcomma₁, hcomma₂] at h
  · by_cases hcomma₂ : mark₂ = ','
    · simp [whenSet, hcomma₁, hcomma₂] at h
    · simp only [whenSet, bne_iff_ne, ne_eq, hcomma₁, hcomma₂, not_false_eq_true, if_true,
        List.cons.injEq, and_true, String.append_right_inj] at h
      by_cases htab₁ : mark₁ = '\t'
      · by_cases htab₂ : mark₂ = '\t'
        · rw [htab₁, htab₂]
        · simp [htab₁, htab₂, ← String.toList_inj] at h
      · by_cases htab₂ : mark₂ = '\t'
        · simp [htab₁, htab₂, ← String.toList_inj] at h
        · simpa [htab₁, htab₂, ← String.toList_inj] using h

/-- The settings of a file can be read off their lines. -/
theorem eq_of_lines_eq (h : settings₁.lines = settings₂.lines) : settings₁ = settings₂ := by
  have hlines : ∀ directive, settings₁.linesOf directive = settings₂.linesOf directive := by
    intro directive
    rw [← filter_lines, h, filter_lines]
  have htotal : settings₁.totalColumns = settings₂.totalColumns := by
    have htotals := hlines .totalColumns
    have hmap := congrArg List.head? htotals
    simp only [linesOf, Option.head?_toList] at hmap
    refine Option.map_injective (fun total₁ total₂ heq => ?_) hmap
    exact Decimal.natText_injective (String.append_right_inj _ |>.1 heq)
  have hseparator := separator_eq_of_linesOf_eq (hlines .separator)
  have hquoted := whenSet_injective (hlines .quoted)
  have hempty := whenSet_injective (hlines .permitEmpty)
  have hheader := whenSet_injective (hlines .noHeader)
  have hcase := whenSet_injective (hlines .ignoreColumnNameCase)
  cases settings₁
  cases settings₂
  simp only [mk.injEq]
  exact ⟨hseparator, hquoted, htotal, hempty, hheader, hcase⟩

theorem isDirectiveLine_of_mem_lines (h : settings.WellFormed) :
    ∀ line ∈ settings.lines, IsDirectiveLine line := by
  intro line hline
  rw [lines_eq_flatMap] at hline
  obtain ⟨directive, -, hmem⟩ := List.mem_flatMap.1 hline
  constructor
  · obtain ⟨rest, rfl⟩ := settings.exists_of_mem_linesOf hmem
    cases directive <;> simp [GlobalDirective.keyword]
  · cases directive with
    | separator =>
        rw [mem_whenSet hmem]
        have hmark := h.separator.2.1
        split <;> simp [GlobalDirective.keyword, hmark.symm]
    | totalColumns =>
        obtain ⟨total, -, rfl⟩ := Option.map_eq_some_iff.1 (Option.mem_toList.1 hmem)
        have hdigits : '\n' ∉ Decimal.digits total := by
          intro hnewline
          have hdigit := Decimal.isDigit_of_mem_digits '\n' hnewline
          revert hdigit
          decide
        simp [GlobalDirective.keyword, Decimal.natText, hdigits]
    | _ =>
        rw [mem_whenSet hmem]
        simp [GlobalDirective.keyword]

end FileSettings

end Directives

section Columns

/-- The text of a column shows where its name and its checks end: a name has no quotes in it. -/
structure ColumnDefinition.IsLegible (column : ColumnDefinition) : Prop where
  name : '"' ∉ column.name.toList
  checks : ∀ check ∈ column.rule.checks, check.IsLegible

/-- The phrases of a column: those of its checks, and its directives. -/
def ColumnDefinition.phrases (column : ColumnDefinition) : List Phrase :=
  clausePhrases column.rule.checks ++ column.rule.settings.keywords.map .word

/-- What stands behind the colon in the line of a column. -/
def afterColon (phrases : List Phrase) : List Char :=
  if phrases.isEmpty then [] else ' ' :: (phrasesText phrases).toList

/-- A name that is written without quotes does not start with one, whether it is empty or not. -/
theorem ne_quote_cons_of_plain {name rest tail : List Char} (h : name.all isPlainNameChar = true) :
    name ++ ':' :: rest ≠ '"' :: tail := by
  intro heq
  cases name with
  | nil => cases heq
  | cons c more =>
      obtain ⟨rfl, -⟩ := List.cons.inj heq
      have hquote : isPlainNameChar '"' = false := by decide
      rw [List.all_cons, hquote] at h
      cases h

theorem nameText_eq_of_append {name₁ name₂ : String} {rest₁ rest₂ : List Char}
    (h₁ : '"' ∉ name₁.toList) (h₂ : '"' ∉ name₂.toList)
    (h : (nameText name₁).toList ++ ':' :: rest₁ = (nameText name₂).toList ++ ':' :: rest₂) :
    name₁ = name₂ ∧ rest₁ = rest₂ := by
  have hquoted : ∀ (name : String) (rest : List Char),
      ("\"" ++ name ++ "\"").toList ++ ':' :: rest =
        '"' :: (name.toList ++ '"' :: ':' :: rest) := by
    intro name rest
    simp
  unfold nameText at h
  split at h
  · rename_i hplain₁
    split at h
    · rename_i hplain₂
      obtain ⟨hname, hrest⟩ := Text.eq_of_span h (List.all_eq_true.1 hplain₁)
        (List.all_eq_true.1 hplain₂) ⟨':', _, rfl, by decide⟩ ⟨':', _, rfl, by decide⟩
      exact ⟨String.toList_inj.1 hname, (List.cons.inj hrest).2⟩
    · rw [hquoted] at h
      exact absurd h (ne_quote_cons_of_plain hplain₁)
  · split at h
    · rename_i hplain₂
      rw [hquoted] at h
      exact absurd h.symm (ne_quote_cons_of_plain hplain₂)
    · rw [hquoted, hquoted] at h
      obtain ⟨hname, hrest⟩ := Text.eq_of_first (List.cons.inj h).2 h₁ h₂
      exact ⟨String.toList_inj.1 hname, (List.cons.inj hrest).2⟩

theorem afterColon_eq_of_append {phrases₁ phrases₂ : List Phrase} {rest₁ rest₂ : List Char}
    (h₁ : phrases₁ ≠ [] → AreReadable phrases₁) (h₂ : phrases₂ ≠ [] → AreReadable phrases₂)
    (h : afterColon phrases₁ ++ '\n' :: rest₁ = afterColon phrases₂ ++ '\n' :: rest₂) :
    phrases₁ = phrases₂ ∧ rest₁ = rest₂ := by
  have hends : ∀ rest, EndsPhrases ('\n' :: rest) := fun rest => ⟨'\n', rest, rfl, .inr (.inr rfl)⟩
  unfold afterColon at h
  cases phrases₁ with
  | nil =>
      cases phrases₂ with
      | nil => exact ⟨rfl, (List.cons.inj h).2⟩
      | cons phrase₂ more₂ => cases (List.cons.inj h).1
  | cons phrase₁ more₁ =>
      cases phrases₂ with
      | nil => cases (List.cons.inj h).1
      | cons phrase₂ more₂ =>
          obtain ⟨hphrases, hrest⟩ := phrases_eq_of_append (h₁ (List.cons_ne_nil _ _))
            (h₂ (List.cons_ne_nil _ _)) (hends rest₁) (hends rest₂) (List.cons.inj h).2
          exact ⟨hphrases, (List.cons.inj hrest).2⟩

namespace ColumnDefinition

variable {column column₁ column₂ : ColumnDefinition}

/-- The texts of checks and directives are those of their phrases. -/
theorem joinWith_eq (hwell : column.WellFormed) :
    Text.joinWith " " (checkTexts column.rule.checks ++ column.rule.settings.keywords) =
      phrasesText column.phrases := by
  have hchecks := clauseText_eq hwell.rule
  have hkeywords : Text.joinWith " " column.rule.settings.keywords =
      phrasesText (column.rule.settings.keywords.map .word) := by
    rw [phrasesText, phraseTexts_eq_map, List.map_map]
    exact congrArg _ (List.map_id _).symm
  rw [phrases]
  by_cases hnone : column.rule.checks = []
  · rw [hnone, checkTexts, clausePhrases, List.nil_append, List.nil_append, hkeywords]
  · by_cases hplain : column.rule.settings.keywords = []
    · rw [hplain, List.append_nil, List.map_nil, List.append_nil, hchecks]
    · have htexts : checkTexts column.rule.checks ≠ [] := by
        obtain ⟨check, rest, heq⟩ := List.exists_cons_of_ne_nil hnone
        rw [heq, checkTexts]
        exact List.cons_ne_nil _ _
      have hphrases : clausePhrases column.rule.checks ≠ [] :=
        clausePhrases_ne_nil hnone fun check hmem => Check.phrases_ne_nil (hwell.rule check hmem)
      rw [joinWith_append " " htexts hplain, hchecks, hkeywords,
        phrasesText_append hphrases (by simpa using hplain)]

theorem toList_line (hwell : column.WellFormed) :
    column.line.toList = (nameText column.name).toList ++ ':' :: afterColon column.phrases := by
  have hjoined := joinWith_eq hwell
  have hcolon : (nameText column.name ++ ":").toList = (nameText column.name).toList ++ [':'] :=
    String.toList_append
  by_cases hbare : column.phrases = []
  · obtain ⟨hclause, hplain⟩ := List.append_eq_nil_iff.1 hbare
    have hnone : column.rule.checks = [] := by
      by_contra hsome
      exact clausePhrases_ne_nil hsome
        (fun check hmem => Check.phrases_ne_nil (hwell.rule check hmem)) hclause
    rw [line, hnone, List.map_eq_nil_iff.1 hplain, hbare]
    exact hcolon
  · have hpieces : checkTexts column.rule.checks ++ column.rule.settings.keywords ≠ [] := by
      intro hnil
      obtain ⟨hchecks, hplain⟩ := List.append_eq_nil_iff.1 hnil
      refine hbare (List.append_eq_nil_iff.2 ⟨?_, by rw [hplain, List.map_nil]⟩)
      cases hsome : column.rule.checks with
      | nil => rfl
      | cons check rest =>
          rw [hsome, checkTexts] at hchecks
          cases hchecks
    have hafter : afterColon column.phrases = ' ' :: (phrasesText column.phrases).toList :=
      if_neg (by simpa using hbare)
    rw [line, ← List.singleton_append, joinWith_append " " (List.cons_ne_nil _ _) hpieces, hjoined,
      hafter, String.toList_append, String.toList_append, Text.joinWith, hcolon, List.append_assoc,
      List.append_assoc]
    rfl

/-- Whether a phrase is a directive. -/
def isDirective : Phrase → Bool
  | .word text => text.toList.head? == some '@'
  | _ => false

theorem exists_of_mem_keywords {settings : ColumnSettings} {text : String}
    (h : text ∈ settings.keywords) : ∃ directive : ColumnDirective, text = directive.keyword := by
  simp only [ColumnSettings.keywords, List.mem_append] at h
  rcases h with ((h | h) | h) | h
  all_goals exact ⟨_, FileSettings.mem_whenSet h⟩

/-- The directives of a column are words that start with an at sign. -/
theorem forall_mem_keywords (settings : ColumnSettings) :
    ∀ phrase ∈ settings.keywords.map Phrase.word,
      phrase.IsReadableBeside ∧ isDirective phrase = true := by
  intro phrase hphrase
  obtain ⟨text, htext, rfl⟩ := List.mem_map.1 hphrase
  obtain ⟨directive, rfl⟩ := exists_of_mem_keywords htext
  cases directive <;>
    exact ⟨⟨.word (by decide) (isWordChar_of_all (by decide)), rfl⟩, by decide⟩

theorem keywords_injective {settings₁ settings₂ : ColumnSettings}
    (h : settings₁.keywords = settings₂.keywords) : settings₁ = settings₂ := by
  obtain ⟨optional₁, match₁, case₁, warning₁⟩ := settings₁
  obtain ⟨optional₂, match₂, case₂, warning₂⟩ := settings₂
  revert h
  cases optional₁ <;> cases match₁ <;> cases case₁ <;> cases warning₁ <;> cases optional₂ <;>
    cases match₂ <;> cases case₂ <;> cases warning₂ <;> decide

/-- No atomic check starts with an at sign. -/
theorem isDirective_phrase (atom : Atom) : isDirective atom.phrase = false := by
  have hkeyword : (atom.keyword.toList.head? == some '@') = false := by
    cases atom with
    | value test => cases test <;> simp [Atom.keyword, ValueTest.keyword]
    | compare relation operand => cases relation <;> simp [Atom.keyword, Relation.keyword]
    | _ => simp [Atom.keyword]
  have hphrase := atom.keyword?_phrase
  cases hword : atom.phrase with
  | word text =>
      rw [hword] at hphrase
      cases hphrase
      exact hkeyword
  | _ => rfl

theorem isDirective_connective (connective : Connective) :
    isDirective (.word connective.word) = false := by
  cases connective <;> decide

theorem isDirective_of_mem_withinFirst {name : String} {phrases : List Phrase}
    (h : ∀ phrase ∈ phrases, isDirective phrase = false) :
    ∀ phrase ∈ withinFirst name phrases, isDirective phrase = false := by
  cases phrases with
  | nil => simp [withinFirst]
  | cons first rest =>
      rw [withinFirst, List.forall_mem_cons]
      exact ⟨rfl, (List.forall_mem_cons.1 h).2⟩

mutual

/-- No phrase of a check is a directive. -/
theorem isDirective_of_mem_phrases (check : Check) :
    ∀ phrase ∈ check.phrases, isDirective phrase = false := by
  cases check with
  | atom atom =>
      rw [Check.phrases, List.forall_mem_singleton]
      exact isDirective_phrase atom
  | or checks =>
      rw [Check.phrases]
      exact isDirective_of_mem_joinedPhrases .or checks
  | and checks =>
      rw [Check.phrases]
      exact isDirective_of_mem_joinedPhrases .and checks
  | parenthesized checks => simp [Check.phrases, isDirective]
  | conditional condition clause otherwise => simp [Check.phrases, isDirective]
  | switch cases otherwise => simp [Check.phrases, isDirective]
  | single column check =>
      cases column with
      | none =>
          rw [Check.phrases]
          exact isDirective_of_mem_phrases check
      | some column =>
          rw [Check.phrases]
          exact isDirective_of_mem_withinFirst (isDirective_of_mem_phrases check)

theorem isDirective_of_mem_joinedPhrases (connective : Connective) (checks : List Check) :
    ∀ phrase ∈ joinedPhrases connective checks, isDirective phrase = false := by
  match checks with
  | [] => simp [joinedPhrases]
  | [check] =>
      rw [joinedPhrases]
      exact isDirective_of_mem_phrases check
  | check :: next :: rest =>
      rw [joinedPhrases, List.forall_mem_append, List.forall_mem_cons]
      exact ⟨isDirective_of_mem_phrases check, isDirective_connective connective,
        isDirective_of_mem_joinedPhrases connective (next :: rest)⟩

end

theorem isDirective_of_mem_clausePhrases (checks : List Check) :
    ∀ phrase ∈ clausePhrases checks, isDirective phrase = false := by
  induction checks with
  | nil => simp [clausePhrases]
  | cons check rest ih =>
      rw [clausePhrases, List.forall_mem_append]
      exact ⟨isDirective_of_mem_phrases check, ih⟩

/-- Columns with the same phrases have the same directives, and checks with the same phrases. -/
theorem settings_eq_of_phrases_eq (h : column₁.phrases = column₂.phrases) :
    column₁.rule.settings = column₂.rule.settings ∧
      clausePhrases column₁.rule.checks = clausePhrases column₂.rule.checks := by
  have hplain : ∀ (column : ColumnDefinition), ∀ phrase ∈ clausePhrases column.rule.checks,
      (!isDirective phrase) = true := by
    intro column phrase hmem
    rw [isDirective_of_mem_clausePhrases _ phrase hmem]
    rfl
  have hflags : ∀ (column : ColumnDefinition),
      ∀ phrase ∈ column.rule.settings.keywords.map Phrase.word, (!isDirective phrase) = false := by
    intro column phrase hmem
    rw [(forall_mem_keywords _ phrase hmem).2]
    rfl
  obtain ⟨hchecks, hkeywords⟩ := eq_of_append_of_separated (hplain column₁) (hplain column₂)
    (hflags column₁) (hflags column₂) h
  have htexts := (List.map_inj_right fun _ _ => Phrase.word.inj).1 hkeywords
  exact ⟨keywords_injective htexts, hchecks⟩

theorem areReadable_phrases (hwell : column.WellFormed) (h : column.IsLegible)
    (hne : column.phrases ≠ []) : AreReadable column.phrases :=
  areReadable_of_beside hne (List.forall_mem_append.2
    ⟨isReadableBeside_clausePhrases hwell.rule h.checks,
      fun phrase hmem => (forall_mem_keywords column.rule.settings phrase hmem).1⟩)

/-- Two columns have the same name, the same directives and checks with the same phrases. -/
structure WrittenAlike (column₁ column₂ : ColumnDefinition) : Prop where
  name : column₁.name = column₂.name
  settings : column₁.rule.settings = column₂.rule.settings
  phrases : clausePhrases column₁.rule.checks = clausePhrases column₂.rule.checks

/-- A column is read from the start of a text. -/
theorem writtenAlike_of_append {rest₁ rest₂ : List Char} (hwell₁ : column₁.WellFormed)
    (hwell₂ : column₂.WellFormed) (h₁ : column₁.IsLegible) (h₂ : column₂.IsLegible)
    (h : column₁.line.toList ++ '\n' :: rest₁ = column₂.line.toList ++ '\n' :: rest₂) :
    WrittenAlike column₁ column₂ ∧ rest₁ = rest₂ := by
  rw [toList_line hwell₁, toList_line hwell₂, List.append_assoc, List.append_assoc,
    List.cons_append, List.cons_append] at h
  obtain ⟨hname, hafter⟩ := nameText_eq_of_append h₁.name h₂.name h
  obtain ⟨hphrases, hrest⟩ := afterColon_eq_of_append (areReadable_phrases hwell₁ h₁)
    (areReadable_phrases hwell₂ h₂) hafter
  obtain ⟨hsettings, hchecks⟩ := settings_eq_of_phrases_eq hphrases
  exact ⟨⟨hname, hsettings, hchecks⟩, hrest⟩

/-- The line of a column does not start with an at sign. -/
theorem head?_line (hwell : column.WellFormed) : column.line.toList.head? ≠ some '@' := by
  rw [toList_line hwell]
  unfold nameText
  split
  · rename_i hplain
    cases hname : column.name.toList with
    | nil => simp
    | cons c rest =>
        rw [hname, List.all_cons, Bool.and_eq_true] at hplain
        rw [List.cons_append, List.head?_cons, ne_eq, Option.some.injEq]
        rintro rfl
        have hat : isPlainNameChar '@' = false := by decide
        rw [hat] at hplain
        cases hplain.1
  · simp

end ColumnDefinition

/-- The columns of a schema are read from their lines. -/
theorem forall₂_writtenAlike {columns₁ columns₂ : List ColumnDefinition}
    (hwell₁ : ∀ column ∈ columns₁, column.WellFormed)
    (hwell₂ : ∀ column ∈ columns₂, column.WellFormed)
    (h₁ : ∀ column ∈ columns₁, column.IsLegible) (h₂ : ∀ column ∈ columns₂, column.IsLegible)
    (h : lineChars (columns₁.map ColumnDefinition.line) =
      lineChars (columns₂.map ColumnDefinition.line)) :
    Forall₂ ColumnDefinition.WrittenAlike columns₁ columns₂ := by
  induction columns₁ generalizing columns₂ with
  | nil =>
      cases columns₂ with
      | nil => exact .nil
      | cons column₂ rest₂ =>
          rw [List.map_cons, lineChars_cons] at h
          exact absurd h.symm (List.append_ne_nil_of_right_ne_nil _ (List.cons_ne_nil _ _))
  | cons column₁ rest₁ ih =>
      cases columns₂ with
      | nil =>
          rw [List.map_cons, lineChars_cons] at h
          exact absurd h (List.append_ne_nil_of_right_ne_nil _ (List.cons_ne_nil _ _))
      | cons column₂ rest₂ =>
          rw [List.forall_mem_cons] at hwell₁ hwell₂ h₁ h₂
          rw [List.map_cons, List.map_cons, lineChars_cons, lineChars_cons] at h
          obtain ⟨hcolumn, hrest⟩ := ColumnDefinition.writtenAlike_of_append hwell₁.1 hwell₂.1
            h₁.1 h₂.1 h
          exact .cons hcolumn (ih hwell₁.2 hwell₂.2 h₁.2 h₂.2 hrest)

end Columns

namespace Schema

/-- The text of a schema shows where the names, the checks and the arguments in it end. -/
def IsLegible (schema : Schema) : Prop := ∀ column ∈ schema.columns, column.IsLegible

/-- Schemas with the same text have the same settings, and columns that are written alike. -/
theorem writtenAlike_of_text_eq {schema₁ schema₂ : Schema} (hwell₁ : schema₁.WellFormed)
    (hwell₂ : schema₂.WellFormed) (h₁ : schema₁.IsLegible) (h₂ : schema₂.IsLegible)
    (h : schema₁.text = schema₂.text) :
    schema₁.settings = schema₂.settings ∧
      Forall₂ ColumnDefinition.WrittenAlike schema₁.columns schema₂.columns := by
  have hlines : lineChars schema₁.lines = lineChars schema₂.lines := by
    rw [← toList_text, ← toList_text, h]
  have hversion : ∀ schema : Schema, '\n' ∉ ("version " ++ schema.version.text).toList := by
    intro schema
    cases schema.version <;> decide
  have hcolumns : ∀ {schema : Schema}, schema.WellFormed →
      (lineChars (schema.columns.map ColumnDefinition.line)).head? ≠ some '@' := by
    intro schema hwell
    cases hcases : schema.columns with
    | nil => simp [lineChars]
    | cons column rest =>
        have hcolumn := ColumnDefinition.head?_line
          (hwell.columns column (by rw [hcases]; exact List.mem_cons_self))
        rw [List.map_cons, lineChars_cons, List.head?_append]
        cases hhead : column.line.toList.head? with
        | none => simp
        | some c => simpa [hhead] using hcolumn
  rw [lines, lines, List.cons_append, List.cons_append, lineChars_cons, lineChars_cons,
    lineChars_append, lineChars_append] at hlines
  obtain ⟨-, hrest⟩ := Text.eq_of_first hlines (hversion schema₁) (hversion schema₂)
  obtain ⟨hsettings, hrest⟩ := directives_eq
    (FileSettings.isDirectiveLine_of_mem_lines hwell₁.settings)
    (FileSettings.isDirectiveLine_of_mem_lines hwell₂.settings) (hcolumns hwell₁)
    (hcolumns hwell₂) hrest
  exact ⟨FileSettings.eq_of_lines_eq hsettings,
    forall₂_writtenAlike hwell₁.columns hwell₂.columns h₁ h₂ hrest⟩

end Schema

end CsvSchema
