import CsvSchema.Proofs.Text.Pieces
import CsvSchema.Schema.Check

/-!
# Phrases

The text of a check is made of phrases: words, quoted texts, references to columns, and keywords
with arguments in parentheses, where an argument is one phrase or some phrases with blanks between
them.  Phrases can be told apart in a text as long as quoted texts hold no quotes and names none of
the characters that stand behind a name, `Phrase.determined` and `phrases_eq_of_append`.
-/

namespace CsvSchema

open Text (eq_of_first eq_of_span)

/-- A piece of the text of a check. -/
inductive Phrase where
  | word (text : String)
  | quoted (text : String)
  | reference (column : String)
  | within (column : String) (phrase : Phrase)
  | call (keyword : String) (arguments : List (List Phrase))

mutual

/-- A phrase as it is written. -/
def Phrase.text : Phrase → String
  | .word text => text
  | .quoted text => "\"" ++ text ++ "\""
  | .reference column => "$" ++ column
  | .within column phrase => "$" ++ column ++ "/" ++ phrase.text
  | .call keyword arguments => Atom.call keyword (argumentTexts arguments)

/-- Phrases as they are written. -/
def phraseTexts : List Phrase → List String
  | [] => []
  | phrase :: rest => phrase.text :: phraseTexts rest

/-- Arguments as they are written. -/
def argumentTexts : List (List Phrase) → List String
  | [] => []
  | phrases :: rest => Text.joinWith " " (phraseTexts phrases) :: argumentTexts rest

end

/-- Phrases with blanks between them. -/
def phrasesText (phrases : List Phrase) : String := Text.joinWith " " (phraseTexts phrases)

theorem phraseTexts_eq_map (phrases : List Phrase) :
    phraseTexts phrases = phrases.map Phrase.text := by
  induction phrases with
  | nil => rfl
  | cons phrase rest ih => rw [phraseTexts, ih, List.map_cons]

theorem argumentTexts_eq_map (arguments : List (List Phrase)) :
    argumentTexts arguments = arguments.map phrasesText := by
  induction arguments with
  | nil => rfl
  | cons phrases rest ih => rw [argumentTexts, ih, List.map_cons, phrasesText]

theorem argumentTexts_cons (argument : List Phrase) (rest : List (List Phrase)) :
    argumentTexts (argument :: rest) = phrasesText argument :: argumentTexts rest := by
  rw [argumentTexts, phrasesText]

@[simp] theorem phrasesText_singleton (phrase : Phrase) : phrasesText [phrase] = phrase.text := by
  rw [phrasesText, phraseTexts, phraseTexts, Text.joinWith]

namespace Phrase

/-- The phrases that a phrase is made of. -/
def parts : Phrase → List Phrase
  | within _ phrase => [phrase]
  | call _ arguments => arguments.flatten
  | _ => []

/-- What holds of a phrase whenever it holds of its parts holds of all phrases. -/
theorem induction {P : Phrase → Prop}
    (h : ∀ phrase : Phrase, (∀ part ∈ phrase.parts, P part) → P phrase) (phrase : Phrase) :
    P phrase := by
  refine h phrase fun part hpart => ?_
  have hsmaller : sizeOf part < sizeOf phrase := by
    cases phrase with
    | within column inner =>
        rw [List.mem_singleton.1 hpart]
        simp only [within.sizeOf_spec]
        omega
    | call keyword arguments =>
        obtain ⟨phrases, hphrases, hmem⟩ := List.mem_flatten.1 hpart
        have houter := List.sizeOf_lt_of_mem hphrases
        have hinner := List.sizeOf_lt_of_mem hmem
        simp only [call.sizeOf_spec]
        omega
    | _ => cases hpart
  exact induction h part
termination_by sizeOf phrase

/-- Whether a phrase is the bare name of a column. -/
def isReference : Phrase → Bool
  | reference _ => true
  | _ => false

end Phrase

section Reading

/-- Whether a character can be in a word. -/
def isWordChar (c : Char) : Bool := !([' ', ',', '(', ')', '"', '$', '/', '\n'].contains c)

/-- The characters of a closed text are looked at one by one. -/
theorem isWordChar_of_all {text : String} (h : text.toList.all isWordChar = true) :
    ∀ c ∈ text.toList, isWordChar c = true :=
  List.all_eq_true.1 h

/-- Whether a character in a name cannot be taken for one that stands behind the name. -/
def isNameChar (c : Char) : Bool := !([',', ')', '/', '\n'].contains c)

/-- A phrase that can be read back from its text. -/
inductive Phrase.IsReadable : Phrase → Prop
  | word {text : String} (hne : text.toList ≠ [])
      (h : ∀ c ∈ text.toList, isWordChar c = true) : IsReadable (.word text)
  | quoted {text : String} (h : '"' ∉ text.toList) : IsReadable (.quoted text)
  | reference {column : String} (h : ∀ c ∈ column.toList, isNameChar c = true) :
      IsReadable (.reference column)
  | within {column : String} {phrase : Phrase} (h : ∀ c ∈ column.toList, isNameChar c = true)
      (hphrase : IsReadable phrase) (hreference : phrase.isReference = false) :
      IsReadable (.within column phrase)
  | call {keyword : String} {arguments : List (List Phrase)}
      (h : ∀ c ∈ keyword.toList, isWordChar c = true) (hsome : arguments ≠ [])
      (hne : ∀ phrases ∈ arguments, phrases ≠ [])
      (hphrases : ∀ phrases ∈ arguments, ∀ phrase ∈ phrases, IsReadable phrase)
      (halone : ∀ phrases ∈ arguments, ∀ phrase ∈ phrases, phrase.isReference = true →
        phrases = [phrase]) : IsReadable (.call keyword arguments)

/-- Phrases that can be read back from their text.  A reference stands alone, since its name may
have blanks in it. -/
structure AreReadable (phrases : List Phrase) : Prop where
  ne_nil : phrases ≠ []
  readable : ∀ phrase ∈ phrases, phrase.IsReadable
  alone : ∀ phrase ∈ phrases, phrase.isReference = true → phrases = [phrase]

/-- What stands behind the last phrase of an argument or of a line. -/
def EndsPhrases (rest : List Char) : Prop :=
  ∃ c after, rest = c :: after ∧ (c = ',' ∨ c = ')' ∨ c = '\n')

/-- What may stand behind a phrase.  Behind a reference there is no blank. -/
def Phrase.MayPrecede (phrase : Phrase) (rest : List Char) : Prop :=
  EndsPhrases rest ∨ phrase.isReference = false ∧ ∃ after, rest = ' ' :: after

theorem AreReadable.of_call {keyword : String} {arguments : List (List Phrase)}
    (h : (Phrase.call keyword arguments).IsReadable) {phrases : List Phrase}
    (hmem : phrases ∈ arguments) : AreReadable phrases := by
  cases h with
  | call _ _ hne hphrases halone => exact ⟨hne _ hmem, hphrases _ hmem, halone _ hmem⟩

/-- A keyword with arguments that can be read back can be read back. -/
theorem isReadable_call {keyword : String} {arguments : List (List Phrase)}
    (hkeyword : ∀ c ∈ keyword.toList, isWordChar c = true) (hsome : arguments ≠ [])
    (h : ∀ argument ∈ arguments, AreReadable argument) :
    (Phrase.call keyword arguments).IsReadable :=
  .call hkeyword hsome (fun argument hmem => (h argument hmem).ne_nil)
    (fun argument hmem => (h argument hmem).readable) fun argument hmem => (h argument hmem).alone

theorem AreReadable.singleton {phrase : Phrase} (h : phrase.IsReadable) : AreReadable [phrase] where
  ne_nil := List.cons_ne_nil _ _
  readable := List.forall_mem_singleton.2 h
  alone := List.forall_mem_singleton.2 fun _ => rfl

/-- A keyword with its arguments in parentheses, if there are any. -/
def Phrase.withArguments (keyword : String) (arguments : List (List Phrase)) : Phrase :=
  if arguments.isEmpty then .word keyword else .call keyword arguments

theorem isReadable_withArguments {keyword : String} {arguments : List (List Phrase)}
    (hne : keyword.toList ≠ []) (hkeyword : ∀ c ∈ keyword.toList, isWordChar c = true)
    (h : ∀ argument ∈ arguments, AreReadable argument) :
    (Phrase.withArguments keyword arguments).IsReadable := by
  unfold Phrase.withArguments
  split
  · exact .word hne hkeyword
  · rename_i hsome
    exact isReadable_call hkeyword (fun hnil => hsome (List.isEmpty_iff.2 hnil)) h

/-- The word that a phrase starts with, if it does. -/
def Phrase.keyword? : Phrase → Option String
  | word text => some text
  | call keyword _ => some keyword
  | _ => none

theorem Phrase.keyword?_withArguments (keyword : String) (arguments : List (List Phrase)) :
    (withArguments keyword arguments).keyword? = some keyword := by
  unfold withArguments
  split <;> rfl

theorem Phrase.withArguments_injective {keyword₁ keyword₂ : String}
    {arguments₁ arguments₂ : List (List Phrase)}
    (h : withArguments keyword₁ arguments₁ = withArguments keyword₂ arguments₂) :
    arguments₁ = arguments₂ := by
  unfold withArguments at h
  split at h
  · rename_i hempty₁
    split at h
    · rename_i hempty₂
      rw [List.isEmpty_iff.1 hempty₁, List.isEmpty_iff.1 hempty₂]
    · cases h
  · split at h
    · cases h
    · exact (call.inj h).2

theorem toList_joinWith_cons_cons (separator x y : String) (rest : List String) :
    (Text.joinWith separator (x :: y :: rest)).toList =
      x.toList ++ (separator.toList ++ (Text.joinWith separator (y :: rest)).toList) := by
  rw [Text.joinWith, String.toList_append, String.toList_append, List.append_assoc]

/-- Items that can be told apart from what follows them can still be told apart when they are
joined, as long as a separator is no end. -/
theorem eq_of_joined {α : Type} {text : α → String} {separator : String}
    (MayPrecede : α → List Char → Prop) {items₁ items₂ : List α} {rest₁ rest₂ : List Char}
    (hitem : ∀ x ∈ items₁, ∀ y ∈ items₂, ∀ after₁ after₂, MayPrecede x after₁ →
      MayPrecede y after₂ → (text x).toList ++ after₁ = (text y).toList ++ after₂ →
        x = y ∧ after₁ = after₂)
    (hnext₁ : 2 ≤ items₁.length → ∀ x ∈ items₁, ∀ after, MayPrecede x (separator.toList ++ after))
    (hnext₂ : 2 ≤ items₂.length → ∀ x ∈ items₂, ∀ after, MayPrecede x (separator.toList ++ after))
    (hlast₁ : ∀ x ∈ items₁, MayPrecede x rest₁) (hlast₂ : ∀ x ∈ items₂, MayPrecede x rest₂)
    (hend₁ : ∀ after, rest₁ ≠ separator.toList ++ after)
    (hend₂ : ∀ after, rest₂ ≠ separator.toList ++ after)
    (hne₁ : items₁ ≠ []) (hne₂ : items₂ ≠ [])
    (h : (Text.joinWith separator (items₁.map text)).toList ++ rest₁ =
      (Text.joinWith separator (items₂.map text)).toList ++ rest₂) :
    items₁ = items₂ ∧ rest₁ = rest₂ := by
  -- Both lists are read item by item: where one ends and the other goes on, a separator stands
  -- against an end.
  induction items₁ generalizing items₂ with
  | nil => exact absurd rfl hne₁
  | cons x more₁ ih =>
      obtain ⟨y, more₂, rfl⟩ := List.exists_cons_of_ne_nil hne₂
      have hfirst := hitem x (List.mem_cons_self) y (List.mem_cons_self)
      cases more₁ with
      | nil =>
          have hx := hlast₁ x (List.mem_cons_self)
          cases more₂ with
          | nil =>
              obtain ⟨rfl, hrests⟩ := hfirst rest₁ rest₂ hx (hlast₂ y (List.mem_cons_self)) h
              exact ⟨rfl, hrests⟩
          | cons y' more₂ =>
              simp only [List.map_cons, toList_joinWith_cons_cons, List.append_assoc] at h
              have hy := hnext₂ (by simp) y (List.mem_cons_self)
              exact absurd (hfirst _ _ hx (hy _) h).2 (hend₁ _)
      | cons x' more₁ =>
          have hx := hnext₁ (by simp) x (List.mem_cons_self)
          cases more₂ with
          | nil =>
              simp only [List.map_cons, toList_joinWith_cons_cons, List.append_assoc] at h
              have hy := hlast₂ y (List.mem_cons_self)
              exact absurd (hfirst _ _ (hx _) hy h).2.symm (hend₂ _)
          | cons y' more₂ =>
              simp only [List.map_cons, toList_joinWith_cons_cons, List.append_assoc] at h
              have hy := hnext₂ (by simp) y (List.mem_cons_self)
              obtain ⟨rfl, hrest⟩ := hfirst _ _ (hx _) (hy _) h
              obtain ⟨hmore, hrests⟩ := ih
                (fun a ha b hb => hitem a (List.mem_cons_of_mem _ ha) b (List.mem_cons_of_mem _ hb))
                (fun _ a ha => hnext₁ (by simp) a (List.mem_cons_of_mem _ ha))
                (fun _ a ha => hnext₂ (by simp) a (List.mem_cons_of_mem _ ha))
                (fun a ha => hlast₁ a (List.mem_cons_of_mem _ ha))
                (fun a ha => hlast₂ a (List.mem_cons_of_mem _ ha))
                (List.cons_ne_nil _ _) (List.cons_ne_nil _ _) (List.append_cancel_left hrest)
              exact ⟨congrArg (x :: ·) hmore, hrests⟩

namespace Phrase

theorem toList_quoted (text : String) :
    (quoted text).text.toList = '"' :: (text.toList ++ ['"']) := by
  rw [Phrase.text, String.toList_append, String.toList_append]
  rfl

theorem toList_reference (column : String) :
    (reference column).text.toList = '$' :: column.toList := by
  rw [Phrase.text, String.toList_append]
  rfl

theorem toList_within (column : String) (phrase : Phrase) :
    (within column phrase).text.toList =
      '$' :: (column.toList ++ '/' :: phrase.text.toList) := by
  rw [Phrase.text, String.toList_append, String.toList_append, String.toList_append,
    List.append_assoc, List.append_assoc]
  rfl

theorem toList_call (keyword : String) (arguments : List (List Phrase)) :
    (call keyword arguments).text.toList = keyword.toList ++
      '(' :: ((Text.joinWith ", " (arguments.map phrasesText)).toList ++ [')']) := by
  rw [Phrase.text, Atom.call, argumentTexts_eq_map, String.toList_append, String.toList_append,
    String.toList_append, List.append_assoc, List.append_assoc]
  rfl

/-- What tells kinds of phrases apart at their first character. -/
def mark : Phrase → Option Char
  | word _ => none
  | quoted _ => some '"'
  | reference _ => some '$'
  | within _ _ => some '$'
  | call _ _ => none

theorem mark_eq {phrase : Phrase} (hphrase : phrase.IsReadable) {rest tail : List Char} {c : Char}
    (h : phrase.text.toList ++ rest = c :: tail) :
    phrase.mark = if c = '"' ∨ c = '$' then some c else none := by
  -- A word or a keyword starts with a character that is no mark.
  have hplain : ∀ {x : Char}, isWordChar x = true ∨ x = '(' → ¬(x = '"' ∨ x = '$') := by
    rintro x (hx | rfl)
    · rintro (rfl | rfl) <;> simp [isWordChar] at hx
    · decide
  cases hphrase with
  | @word text hne hchars =>
      obtain ⟨x, more, htext⟩ := List.exists_cons_of_ne_nil hne
      rw [Phrase.text, htext, List.cons_append, List.cons.injEq] at h
      have hx := hchars x (by rw [htext]; exact List.mem_cons_self)
      rw [← h.1, if_neg (hplain (.inl hx)), mark]
  | quoted _ =>
      rw [toList_quoted, List.cons_append, List.cons.injEq] at h
      rw [← h.1]
      rfl
  | reference _ =>
      rw [toList_reference, List.cons_append, List.cons.injEq] at h
      rw [← h.1]
      rfl
  | within _ _ _ =>
      rw [toList_within, List.cons_append, List.cons.injEq] at h
      rw [← h.1]
      rfl
  | @call keyword arguments hchars _ _ _ _ =>
      rw [toList_call] at h
      cases hkeyword : keyword.toList with
      | nil =>
          rw [hkeyword, List.nil_append, List.cons_append, List.cons.injEq] at h
          rw [← h.1]
          rfl
      | cons x more =>
          rw [hkeyword, List.cons_append, List.cons_append, List.cons.injEq] at h
          have hx := hchars x (by rw [hkeyword]; exact List.mem_cons_self)
          rw [← h.1, if_neg (hplain (.inl hx)), mark]

/-- Two phrases that start in the same way are of the same kind. -/
theorem mark_congr {phrase₁ phrase₂ : Phrase} (h₁ : phrase₁.IsReadable) (h₂ : phrase₂.IsReadable)
    {rest₁ rest₂ : List Char} (hne : phrase₁.text.toList ++ rest₁ ≠ [])
    (h : phrase₁.text.toList ++ rest₁ = phrase₂.text.toList ++ rest₂) :
    phrase₁.mark = phrase₂.mark := by
  obtain ⟨c, tail, hhead⟩ := List.exists_cons_of_ne_nil hne
  rw [mark_eq h₁ hhead, mark_eq h₂ (h.symm.trans hhead)]

end Phrase

/-- What ends phrases ends a word and a name. -/
theorem EndsPhrases.stops {p : Char → Bool} {rest : List Char} (h : EndsPhrases rest)
    (hp : p ',' = false ∧ p ')' = false ∧ p '\n' = false) :
    ∃ c after, rest = c :: after ∧ p c = false := by
  obtain ⟨c, after, rfl, rfl | rfl | rfl⟩ := h
  · exact ⟨_, after, rfl, hp.1⟩
  · exact ⟨_, after, rfl, hp.2.1⟩
  · exact ⟨_, after, rfl, hp.2.2⟩

theorem EndsPhrases.ne_blank {rest : List Char} (h : EndsPhrases rest) (after : List Char) :
    rest ≠ ' ' :: after := by
  obtain ⟨c, more, rfl, rfl | rfl | rfl⟩ := h <;> simp

namespace Phrase.MayPrecede

variable {phrase : Phrase} {rest : List Char}

theorem stops_word (h : phrase.MayPrecede rest) :
    ∃ c after, rest = c :: after ∧ isWordChar c = false := by
  rcases h with h | ⟨-, after, rfl⟩
  · exact h.stops (by decide)
  · exact ⟨' ', after, rfl, by decide⟩

theorem stops_name {column : String} (h : (reference column).MayPrecede rest) :
    ∃ c after, rest = c :: after ∧ isNameChar c = false := by
  rcases h with h | ⟨hreference, -⟩
  · exact h.stops (by decide)
  · cases hreference

/-- No parenthesis opens behind a phrase, and no slash stands there. -/
theorem ne_cons (h : phrase.MayPrecede rest) {c : Char} (hc : c = '(' ∨ c = '/')
    (after : List Char) : rest ≠ c :: after := by
  rcases h with ⟨x, more, rfl, rfl | rfl | rfl⟩ | ⟨-, more, rfl⟩ <;>
    rcases hc with rfl | rfl <;> simp

/-- What may stand behind a phrase in which another one comes last may stand behind that one. -/
theorem of_within {column : String} (h : (within column phrase).MayPrecede rest)
    (hphrase : phrase.isReference = false) : phrase.MayPrecede rest :=
  h.imp_right fun hblank => ⟨hphrase, hblank.2⟩

end Phrase.MayPrecede

namespace Phrase

/-- The characters of a phrase and of what stands behind it determine both. -/
def Determined (phrase₁ : Phrase) : Prop :=
  ∀ ⦃phrase₂ : Phrase⦄ ⦃rest₁ rest₂ : List Char⦄, phrase₁.IsReadable → phrase₂.IsReadable →
    phrase₁.MayPrecede rest₁ → phrase₂.MayPrecede rest₂ →
    phrase₁.text.toList ++ rest₁ = phrase₂.text.toList ++ rest₂ →
    phrase₁ = phrase₂ ∧ rest₁ = rest₂

/-- Only a phrase of the same kind can have the same characters. -/
theorem determined_of_mark {phrase₁ : Phrase}
    (h : ∀ ⦃phrase₂ : Phrase⦄ ⦃rest₁ rest₂ : List Char⦄, phrase₁.mark = phrase₂.mark →
      phrase₁.IsReadable → phrase₂.IsReadable → phrase₁.MayPrecede rest₁ →
      phrase₂.MayPrecede rest₂ → phrase₁.text.toList ++ rest₁ = phrase₂.text.toList ++ rest₂ →
      phrase₁ = phrase₂ ∧ rest₁ = rest₂) : phrase₁.Determined := by
  intro phrase₂ rest₁ rest₂ h₁ h₂ hafter₁ hafter₂ heq
  have hne : phrase₁.text.toList ++ rest₁ ≠ [] := by
    obtain ⟨c, after, rfl, -⟩ := hafter₁.stops_word
    simp
  exact h (mark_congr h₁ h₂ hne heq) h₁ h₂ hafter₁ hafter₂ heq

theorem determined_word (text₁ : String) : (word text₁).Determined := by
  refine determined_of_mark fun phrase₂ rest₁ rest₂ hmark h₁ h₂ hafter₁ hafter₂ h => ?_
  cases h₁ with
  | word hne₁ hchars₁ =>
      cases h₂ with
      | @word text₂ hne₂ hchars₂ =>
          obtain ⟨htext, hrest⟩ :=
            eq_of_span h hchars₁ hchars₂ hafter₁.stops_word hafter₂.stops_word
          exact ⟨congrArg word (String.toList_inj.1 htext), hrest⟩
      | @call keyword₂ arguments₂ hchars₂ _ _ _ _ =>
          -- No parenthesis opens behind a word.
          rw [toList_call, List.append_assoc] at h
          obtain ⟨-, hrest⟩ := eq_of_span h hchars₁ hchars₂ hafter₁.stops_word
            ⟨'(', _, rfl, by decide⟩
          exact absurd hrest (hafter₁.ne_cons (.inl rfl) _)
      | _ => cases hmark

theorem determined_quoted (text₁ : String) : (quoted text₁).Determined := by
  refine determined_of_mark fun phrase₂ rest₁ rest₂ hmark h₁ h₂ hafter₁ hafter₂ h => ?_
  cases h₁ with
  | quoted hquote₁ =>
      cases h₂ with
      | @quoted text₂ hquote₂ =>
          rw [toList_quoted, toList_quoted, List.cons_append, List.cons_append, List.cons.injEq,
            List.append_assoc, List.append_assoc] at h
          obtain ⟨htext, hrest⟩ := eq_of_first h.2 hquote₁ hquote₂
          exact ⟨congrArg quoted (String.toList_inj.1 htext), hrest⟩
      | _ => cases hmark

theorem determined_reference (column₁ : String) : (reference column₁).Determined := by
  refine determined_of_mark fun phrase₂ rest₁ rest₂ hmark h₁ h₂ hafter₁ hafter₂ h => ?_
  cases h₁ with
  | reference hname₁ =>
      cases h₂ with
      | @reference column₂ hname₂ =>
          rw [toList_reference, toList_reference, List.cons_append, List.cons_append,
            List.cons.injEq] at h
          obtain ⟨hcolumn, hrest⟩ :=
            eq_of_span h.2 hname₁ hname₂ hafter₁.stops_name hafter₂.stops_name
          exact ⟨congrArg reference (String.toList_inj.1 hcolumn), hrest⟩
      | @within column₂ inner₂ hname₂ _ _ =>
          -- No slash stands behind a reference.
          rw [toList_reference, toList_within, List.cons_append, List.cons_append, List.cons.injEq,
            List.append_assoc] at h
          obtain ⟨-, hrest⟩ := eq_of_span h.2 hname₁ hname₂ hafter₁.stops_name
            ⟨'/', _, rfl, by decide⟩
          exact absurd hrest (hafter₁.ne_cons (.inr rfl) _)
      | _ => cases hmark

theorem determined_within (column₁ : String) {inner₁ : Phrase} (hinner : inner₁.Determined) :
    (within column₁ inner₁).Determined := by
  refine determined_of_mark fun phrase₂ rest₁ rest₂ hmark h₁ h₂ hafter₁ hafter₂ h => ?_
  cases h₁ with
  | within hname₁ hinner₁ hreference₁ =>
      cases h₂ with
      | @reference column₂ hname₂ =>
          rw [toList_within, toList_reference, List.cons_append, List.cons_append, List.cons.injEq,
            List.append_assoc] at h
          obtain ⟨-, hrest⟩ := eq_of_span h.2 hname₁ hname₂ ⟨'/', _, rfl, by decide⟩
            hafter₂.stops_name
          exact absurd hrest.symm (hafter₂.ne_cons (.inr rfl) _)
      | @within column₂ inner₂ hname₂ hinner₂ hreference₂ =>
          rw [toList_within, toList_within, List.cons_append, List.cons_append, List.cons.injEq,
            List.append_assoc, List.append_assoc] at h
          obtain ⟨hcolumn, hrest⟩ := eq_of_span h.2 hname₁ hname₂ ⟨'/', _, rfl, by decide⟩
            ⟨'/', _, rfl, by decide⟩
          obtain ⟨rfl, hrests⟩ := hinner hinner₁ hinner₂ (hafter₁.of_within hreference₁)
            (hafter₂.of_within hreference₂) (List.cons.inj hrest).2
          rw [String.toList_inj.1 hcolumn]
          exact ⟨rfl, hrests⟩
      | _ => cases hmark

end Phrase

section Lists

variable {phrases phrases₁ phrases₂ : List Phrase} {rest₁ rest₂ : List Char}

/-- The last of some phrases may precede what ends them, and any other one a blank. -/
theorem AreReadable.mayPrecede (h : AreReadable phrases) (hlength : 2 ≤ phrases.length) :
    ∀ phrase ∈ phrases, ∀ after, phrase.MayPrecede (" ".toList ++ after) := by
  intro phrase hphrase after
  have hreference : phrase.isReference = false := by
    refine Bool.eq_false_iff.2 fun htrue => ?_
    rw [h.alone phrase hphrase htrue] at hlength
    simp at hlength
  exact .inr ⟨hreference, after, rfl⟩

/-- The characters of some phrases and of what stands behind them determine both. -/
theorem phrases_eq_of_determined (hphrases : ∀ phrase ∈ phrases₁, phrase.Determined)
    (h₁ : AreReadable phrases₁) (h₂ : AreReadable phrases₂) (hend₁ : EndsPhrases rest₁)
    (hend₂ : EndsPhrases rest₂)
    (h : (phrasesText phrases₁).toList ++ rest₁ = (phrasesText phrases₂).toList ++ rest₂) :
    phrases₁ = phrases₂ ∧ rest₁ = rest₂ := by
  rw [phrasesText, phrasesText, phraseTexts_eq_map, phraseTexts_eq_map] at h
  refine eq_of_joined Phrase.MayPrecede (fun x hx y hy after₁ after₂ hafter₁ hafter₂ hxy => ?_)
    h₁.mayPrecede h₂.mayPrecede (fun x _ => .inl hend₁) (fun x _ => .inl hend₂) hend₁.ne_blank
    hend₂.ne_blank h₁.ne_nil h₂.ne_nil h
  exact hphrases x hx (h₁.readable x hx) (h₂.readable y hy) hafter₁ hafter₂ hxy

/-- The characters of some arguments, up to the parenthesis that ends them, determine them. -/
theorem arguments_eq_of_determined {arguments₁ arguments₂ : List (List Phrase)}
    (hphrases : ∀ phrases ∈ arguments₁, ∀ phrase ∈ phrases, phrase.Determined)
    (h₁ : ∀ phrases ∈ arguments₁, AreReadable phrases)
    (h₂ : ∀ phrases ∈ arguments₂, AreReadable phrases) (hsome₁ : arguments₁ ≠ [])
    (hsome₂ : arguments₂ ≠ [])
    (h : (Text.joinWith ", " (arguments₁.map phrasesText)).toList ++ ([')'] ++ rest₁) =
      (Text.joinWith ", " (arguments₂.map phrasesText)).toList ++ ([')'] ++ rest₂)) :
    arguments₁ = arguments₂ ∧ rest₁ = rest₂ := by
  have hcomma : ∀ after : List Char, EndsPhrases (", ".toList ++ after) :=
    fun after => ⟨',', ' ' :: after, rfl, .inl rfl⟩
  have hclose : ∀ rest : List Char, EndsPhrases ([')'] ++ rest) :=
    fun rest => ⟨')', rest, rfl, .inr (.inl rfl)⟩
  have hdiffer : ∀ rest after : List Char, [')'] ++ rest ≠ ", ".toList ++ after := by
    intro rest after heq
    cases (List.cons.inj heq).1
  obtain ⟨harguments, hrests⟩ := eq_of_joined (fun _ => EndsPhrases)
    (fun x hx y hy after₁ after₂ hafter₁ hafter₂ hxy =>
      phrases_eq_of_determined (hphrases x hx) (h₁ x hx) (h₂ y hy) hafter₁ hafter₂ hxy)
    (fun _ _ _ => hcomma) (fun _ _ _ => hcomma) (fun _ _ => hclose rest₁) (fun _ _ => hclose rest₂)
    (hdiffer rest₁) (hdiffer rest₂) hsome₁ hsome₂ h
  exact ⟨harguments, (List.cons.inj hrests).2⟩

end Lists

namespace Phrase

/-- A call is determined if its arguments are. -/
theorem determined_call (keyword₁ : String) {arguments₁ : List (List Phrase)}
    (hparts : ∀ phrases ∈ arguments₁, ∀ phrase ∈ phrases, phrase.Determined) :
    (call keyword₁ arguments₁).Determined := by
  refine determined_of_mark fun phrase₂ rest₁ rest₂ hmark h₁ h₂ hafter₁ hafter₂ h => ?_
  have hreadable₁ : ∀ phrases ∈ arguments₁, AreReadable phrases := fun _ => .of_call h₁
  cases h₁ with
  | call hchars₁ hsome₁ _ _ _ =>
      cases h₂ with
      | @word text₂ hne₂ hchars₂ =>
          rw [toList_call, List.append_assoc] at h
          obtain ⟨-, hrest⟩ := eq_of_span h hchars₁ hchars₂ ⟨'(', _, rfl, by decide⟩
            hafter₂.stops_word
          exact absurd hrest.symm (hafter₂.ne_cons (.inl rfl) _)
      | @call keyword₂ arguments₂ hchars₂ hsome₂ hne₂ hphrases₂ halone₂ =>
          have hreadable₂ : ∀ phrases ∈ arguments₂, AreReadable phrases :=
            fun _ hmem => ⟨hne₂ _ hmem, hphrases₂ _ hmem, halone₂ _ hmem⟩
          rw [toList_call, toList_call, List.append_assoc, List.append_assoc] at h
          obtain ⟨hkeyword, hrest⟩ := eq_of_span h hchars₁ hchars₂ ⟨'(', _, rfl, by decide⟩
            ⟨'(', _, rfl, by decide⟩
          rw [List.cons_append, List.cons_append, List.cons.injEq, List.append_assoc,
            List.append_assoc] at hrest
          obtain ⟨rfl, hrests⟩ := arguments_eq_of_determined hparts hreadable₁ hreadable₂ hsome₁
            hsome₂ hrest.2
          rw [String.toList_inj.1 hkeyword]
          exact ⟨rfl, hrests⟩
      | _ => cases hmark

/-- The characters of any phrase and of what stands behind it determine both. -/
theorem determined (phrase : Phrase) : phrase.Determined := by
  induction phrase using Phrase.induction with
  | h phrase ih =>
      cases phrase with
      | word text => exact determined_word text
      | quoted text => exact determined_quoted text
      | reference column => exact determined_reference column
      | within column inner => exact determined_within column (ih inner (List.mem_singleton.2 rfl))
      | call keyword arguments =>
          exact determined_call keyword fun phrases hphrases phrase hphrase =>
            ih phrase (List.mem_flatten.2 ⟨phrases, hphrases, hphrase⟩)

end Phrase

/-- So do those of some phrases. -/
theorem phrases_eq_of_append {phrases₁ phrases₂ : List Phrase} {rest₁ rest₂ : List Char}
    (h₁ : AreReadable phrases₁) (h₂ : AreReadable phrases₂) (hend₁ : EndsPhrases rest₁)
    (hend₂ : EndsPhrases rest₂)
    (h : (phrasesText phrases₁).toList ++ rest₁ = (phrasesText phrases₂).toList ++ rest₂) :
    phrases₁ = phrases₂ ∧ rest₁ = rest₂ :=
  phrases_eq_of_determined (fun phrase _ => phrase.determined) h₁ h₂ hend₁ hend₂ h

end Reading

end CsvSchema
