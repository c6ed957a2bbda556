import CsvSchema.Proofs.Calendar.Texts
import CsvSchema.Proofs.Decimal.Rounding
import CsvSchema.Proofs.Rendering.Phrases
import CsvSchema.Proofs.WellFormed.Basic

/-!
# The phrases of tests

A test of a value alone is written as one phrase, `ValueTest.text_eq`.  Bounds are written as two
arguments, in a way that depends on what they are bounds of, `Wording`.  A test that has been read
from a schema is determined by its phrase, `ValueTest.eq_of_phrase_eq`.
-/

namespace CsvSchema

open Calendar (DateTime Date Time)
open Decimal (Binary64)

section Words

theorem isWordChar_of_isDigit {c : Char} (h : Decimal.isDigit c = true) : isWordChar c = true := by
  rw [isWordChar, Bool.not_eq_true', Bool.eq_false_iff]
  intro hmem
  rw [List.contains_iff_mem] at hmem
  have hstops : ∀ x ∈ [' ', ',', '(', ')', '"', '$', '/', '\n'], Decimal.isDigit x = false := by
    simp [Decimal.isDigit]
  rw [hstops c hmem] at h
  cases h

theorem isWordChar_of_isMark {c : Char} (h : Calendar.IsMark c) : isWordChar c = true := by
  rcases h with h | h
  · exact isWordChar_of_isDigit h
  · have hmarks : ∀ x ∈ ['-', '+', ':', '.'], isWordChar x = true := by
      simp [isWordChar]
    exact hmarks c h

/-- A text of marks is a word, and is not the one for an open bound. -/
theorem isWord_of_isMark {text : String} (hne : text.toList ≠ [])
    (h : ∀ c ∈ text.toList, Calendar.IsMark c) :
    (Phrase.word text).IsReadable ∧ text ≠ "*" := by
  refine ⟨.word hne fun c hc => isWordChar_of_isMark (h c hc), ?_⟩
  rintro rfl
  rcases h '*' (by decide) with hdigit | hmark
  · exact absurd hdigit (by decide)
  · exact absurd hmark (by decide)

end Words

/-- How the values that bounds can be are written as phrases: none of them like an open bound, and
different ones differently as long as they have a property. -/
structure Wording {α : Type} (p : α → Prop) (print : α → String) (phrases : α → List Phrase) :
    Prop where
  text : ∀ x, print x = phrasesText (phrases x)
  readable : ∀ x, AreReadable (phrases x)
  ne_open : ∀ x, phrases x ≠ [.word "*"]
  injective : ∀ {x y}, p x → p y → phrases x = phrases y → x = y

/-- A value as one word. -/
def oneWord {α : Type} (print : α → String) (x : α) : List Phrase := [.word (print x)]

/-- A date and a time as two words. -/
def twoWords (t : DateTime) : List Phrase := [.word t.date.text, .word t.time.text]

section Wordings

variable {α : Type} {p : α → Prop} {print : α → String}

theorem wording_oneWord (hword : ∀ x, (Phrase.word (print x)).IsReadable ∧ print x ≠ "*")
    (hinjective : ∀ {x y}, p x → p y → print x = print y → x = y) :
    Wording p print (oneWord print) where
  text _ := rfl
  readable x := AreReadable.singleton (hword x).1
  ne_open x h := by
    simp only [oneWord, List.cons.injEq, Phrase.word.injEq, and_true] at h
    exact (hword x).2 h
  injective hx hy h := by
    simp only [oneWord, List.cons.injEq, Phrase.word.injEq, and_true] at h
    exact hinjective hx hy h

theorem wording_binary64 :
    Wording Binary64.IsRepresentable Binary64.text (oneWord Binary64.text) := by
  refine wording_oneWord (fun x => isWord_of_isMark x.text_ne_nil fun c hc => ?_)
    Binary64.text_injective
  rcases Binary64.of_mem_text c hc with hdigit | rfl | rfl
  · exact .inl hdigit
  · exact .inr (by decide)
  · exact .inr (by decide)

theorem isWord_natText (n : Nat) :
    (Phrase.word (Decimal.natText n)).IsReadable ∧ Decimal.natText n ≠ "*" := by
  refine isWord_of_isMark ?_ fun c hc => ?_
  · rw [Decimal.natText, String.toList_ofList]
    exact Decimal.digits_ne_nil n
  · rw [Decimal.natText, String.toList_ofList] at hc
    exact .inl (Decimal.isDigit_of_mem_digits c hc)

theorem wording_natText : Wording (fun _ => True) Decimal.natText (oneWord Decimal.natText) :=
  wording_oneWord isWord_natText fun _ _ => Decimal.natText_injective

theorem wording_date : Wording (fun _ => True) Date.text (oneWord Date.text) :=
  wording_oneWord (fun date => isWord_of_isMark date.text_ne_nil Date.isMark_of_mem_text)
    fun _ _ => Date.text_injective

theorem wording_time : Wording Time.IsClock Time.text (oneWord Time.text) :=
  wording_oneWord (fun time => isWord_of_isMark time.text_ne_nil Time.isMark_of_mem_text)
    Time.text_injective

theorem wording_dateTime :
    Wording (fun t : DateTime => t.time.IsClock) DateTime.text twoWords where
  text t := by
    rw [twoWords, phrasesText, DateTime.text, ← String.toList_inj, String.toList_ofList]
    simp only [phraseTexts, Phrase.text, Text.joinWith, String.toList_append, Date.text, Time.text,
      String.toList_ofList, List.append_assoc]
    rfl
  readable t := by
    have hwords : ∀ phrase ∈ twoWords t, phrase.IsReadable ∧ phrase.isReference = false := by
      rw [twoWords, List.forall_mem_cons, List.forall_mem_singleton]
      exact ⟨⟨(isWord_of_isMark t.date.text_ne_nil Date.isMark_of_mem_text).1, rfl⟩,
        (isWord_of_isMark t.time.text_ne_nil Time.isMark_of_mem_text).1, rfl⟩
    refine ⟨List.cons_ne_nil _ _, fun phrase hphrase => (hwords phrase hphrase).1,
      fun phrase hphrase hreference => ?_⟩
    rw [(hwords phrase hphrase).2] at hreference
    cases hreference
  ne_open t h := by
    simp [twoWords] at h
  injective {x y} hx hy h := by
    simp only [twoWords, List.cons.injEq, Phrase.word.injEq, and_true] at h
    obtain ⟨date₁, time₁⟩ := x
    obtain ⟨date₂, time₂⟩ := y
    obtain rfl := Date.text_injective h.1
    obtain rfl := Time.text_injective hx hy h.2
    rfl

end Wordings

namespace Bounds

variable {α : Type}

/-- The phrases of a bound, which may be open. -/
def boundPhrases (phrases : α → List Phrase) : Option α → List Phrase
  | some bound => phrases bound
  | none => [.word "*"]

/-- The arguments that bounds are written as. -/
def arguments (phrases : α → List Phrase) (bounds : Bounds α) : List (List Phrase) :=
  [boundPhrases phrases bounds.lower, boundPhrases phrases bounds.upper]

/-- The arguments of bounds that are written only if there are any. -/
def writtenArguments (phrases : α → List Phrase) (bounds : Bounds α) : List (List Phrase) :=
  if bounds.isUnbounded then [] else bounds.arguments phrases

variable {p : α → Prop} {print : α → String} {phrases : α → List Phrase}
  (hwording : Wording p print phrases)
include hwording

theorem boundText_eq (bound : Option α) :
    boundText print bound = phrasesText (boundPhrases phrases bound) := by
  cases bound with
  | none => rfl
  | some x => exact hwording.text x

theorem text_eq (bounds : Bounds α) :
    bounds.text print = Text.joinWith ", " (argumentTexts (bounds.arguments phrases)) := by
  rw [text, boundText_eq hwording, boundText_eq hwording, argumentTexts_eq_map]
  rfl

theorem ruleText_eq (name : String) (bounds : Bounds α) :
    bounds.ruleText name print =
      (Phrase.withArguments name (bounds.writtenArguments phrases)).text := by
  unfold ruleText writtenArguments
  split
  · rfl
  · rw [text_eq hwording]
    rfl

theorem areReadable_boundPhrases (bound : Option α) : AreReadable (boundPhrases phrases bound) := by
  cases bound with
  | none => exact AreReadable.singleton (.word (by decide) (isWordChar_of_all (by decide)))
  | some x => exact hwording.readable x

theorem boundPhrases_injective {bound₁ bound₂ : Option α} (h₁ : ∀ x ∈ bound₁, p x)
    (h₂ : ∀ x ∈ bound₂, p x)
    (h : boundPhrases phrases bound₁ = boundPhrases phrases bound₂) : bound₁ = bound₂ := by
  cases bound₁ with
  | none =>
      cases bound₂ with
      | none => rfl
      | some y => exact absurd h.symm (hwording.ne_open y)
  | some x =>
      cases bound₂ with
      | none => exact absurd h (hwording.ne_open x)
      | some y => rw [hwording.injective (h₁ x rfl) (h₂ y rfl) h]

theorem arguments_injective {bounds₁ bounds₂ : Bounds α} (h₁ : bounds₁.Each p)
    (h₂ : bounds₂.Each p) (h : bounds₁.arguments phrases = bounds₂.arguments phrases) :
    bounds₁ = bounds₂ := by
  obtain ⟨lower₁, upper₁⟩ := bounds₁
  obtain ⟨lower₂, upper₂⟩ := bounds₂
  simp only [arguments, List.cons.injEq, and_true] at h
  obtain rfl := boundPhrases_injective hwording h₁.1 h₂.1 h.1
  obtain rfl := boundPhrases_injective hwording h₁.2 h₂.2 h.2
  rfl

omit hwording in
theorem eq_unbounded {bounds : Bounds α} (h : bounds.isUnbounded = true) :
    bounds = unbounded := by
  obtain ⟨lower, upper⟩ := bounds
  rw [isUnbounded, Bool.and_eq_true, Option.isNone_iff_eq_none, Option.isNone_iff_eq_none] at h
  obtain ⟨rfl, rfl⟩ := h
  rfl

theorem writtenArguments_injective {bounds₁ bounds₂ : Bounds α} (h₁ : bounds₁.Each p)
    (h₂ : bounds₂.Each p)
    (h : bounds₁.writtenArguments phrases = bounds₂.writtenArguments phrases) :
    bounds₁ = bounds₂ := by
  unfold writtenArguments at h
  split at h
  · rename_i hopen₁
    split at h
    · rename_i hopen₂
      rw [eq_unbounded hopen₁, eq_unbounded hopen₂]
    · cases h
  · split at h
    · cases h
    · exact arguments_injective hwording h₁ h₂ h

theorem areReadable_arguments (bounds : Bounds α) :
    ∀ argument ∈ bounds.arguments phrases, AreReadable argument := by
  rw [arguments, List.forall_mem_cons, List.forall_mem_singleton]
  exact ⟨areReadable_boundPhrases hwording _, areReadable_boundPhrases hwording _⟩

theorem areReadable_writtenArguments (bounds : Bounds α) :
    ∀ argument ∈ bounds.writtenArguments phrases, AreReadable argument := by
  unfold writtenArguments
  split
  · simp
  · exact areReadable_arguments hwording bounds

end Bounds

namespace ValueTest

/-- The keyword of a test. -/
def keyword : ValueTest → String
  | empty => "empty"
  | notEmpty => "notEmpty"
  | regex _ => "regex"
  | range _ => "range"
  | length _ => "length"
  | uri => "uri"
  | dateTime _ => "xDateTime"
  | zonedDateTime _ => "xDateTimeTz"
  | date _ => "xDate"
  | time _ => "xTime"
  | ukDate _ => "ukDate"
  | partialUkDate => "partUkDate"
  | uuid4 => "uuid4"
  | positiveInteger => "positiveInteger"
  | upperCase => "upperCase"
  | lowerCase => "lowerCase"

/-- The phrase of a test. -/
def phrase (test : ValueTest) : Phrase :=
  match test with
  | regex pattern => .call test.keyword [[.quoted pattern.source]]
  | range bounds => .call test.keyword (bounds.arguments (oneWord Binary64.text))
  | length (.exactly n) => .call test.keyword [oneWord Decimal.natText n]
  | length (.between bounds) => .call test.keyword (bounds.arguments (oneWord Decimal.natText))
  | dateTime bounds => .withArguments test.keyword (bounds.writtenArguments twoWords)
  | zonedDateTime bounds => .withArguments test.keyword (bounds.writtenArguments twoWords)
  | date bounds => .withArguments test.keyword (bounds.writtenArguments (oneWord Date.text))
  | time bounds => .withArguments test.keyword (bounds.writtenArguments (oneWord Time.text))
  | ukDate bounds => .withArguments test.keyword (bounds.writtenArguments (oneWord Date.text))
  | _ => .word test.keyword

/-- What holds of the arguments of a test that has been read from a schema, besides being well
formed. -/
def IsRead : ValueTest → Prop
  | regex pattern => Pattern.ofSource? pattern.source = some pattern
  | range bounds => bounds.Each Binary64.IsRepresentable
  | dateTime bounds => bounds.Each fun t => t.time.IsClock
  | zonedDateTime bounds => bounds.Each fun t => t.time.IsClock
  | time bounds => bounds.Each Time.IsClock
  | _ => True

/-- The text of a test shows where its arguments end: a pattern has no quotes in it. -/
def IsLegible : ValueTest → Prop
  | regex pattern => '"' ∉ pattern.source.toList
  | _ => True

variable {test test₁ test₂ : ValueTest}

theorem keyword?_phrase (test : ValueTest) : test.phrase.keyword? = some test.keyword := by
  cases test with
  | length rule => cases rule <;> rfl
  | dateTime bounds => exact Phrase.keyword?_withArguments _ _
  | zonedDateTime bounds => exact Phrase.keyword?_withArguments _ _
  | date bounds => exact Phrase.keyword?_withArguments _ _
  | time bounds => exact Phrase.keyword?_withArguments _ _
  | ukDate bounds => exact Phrase.keyword?_withArguments _ _
  | _ => rfl

theorem keyword_ne_nil (test : ValueTest) : test.keyword.toList ≠ [] := by
  cases test <;> simp [keyword]

theorem isWordChar_keyword (test : ValueTest) :
    ∀ c ∈ test.keyword.toList, isWordChar c = true := by
  cases test <;> simp [keyword, isWordChar]

/-- The text of a test is that of its phrase. -/
theorem text_eq (test : ValueTest) : test.text = test.phrase.text := by
  cases test with
  | regex pattern =>
      rw [← String.toList_inj]
      simp [text, phrase, keyword, Phrase.text, Atom.call, argumentTexts, phraseTexts,
        Text.joinWith]
  | range bounds =>
      rw [text, Bounds.text_eq wording_binary64]
      rfl
  | length rule =>
      cases rule with
      | exactly n => rfl
      | between bounds =>
          rw [text, LengthRule.text, Bounds.text_eq wording_natText]
          rfl
  | dateTime bounds => exact Bounds.ruleText_eq wording_dateTime _ bounds
  | zonedDateTime bounds => exact Bounds.ruleText_eq wording_dateTime _ bounds
  | date bounds => exact Bounds.ruleText_eq wording_date _ bounds
  | time bounds => exact Bounds.ruleText_eq wording_time _ bounds
  | ukDate bounds => exact Bounds.ruleText_eq wording_date _ bounds
  | _ => rfl

theorem isReadable_phrase (h : test.IsLegible) : test.phrase.IsReadable := by
  have hne := test.keyword_ne_nil
  have hchars := test.isWordChar_keyword
  cases test with
  | regex pattern =>
      exact isReadable_call hchars (List.cons_ne_nil _ _)
        (List.forall_mem_singleton.2 (.singleton (.quoted h)))
  | range bounds =>
      exact isReadable_call hchars (List.cons_ne_nil _ _)
        (Bounds.areReadable_arguments wording_binary64 bounds)
  | length rule =>
      cases rule with
      | exactly n =>
          exact isReadable_call hchars (List.cons_ne_nil _ _)
            (List.forall_mem_singleton.2 (.singleton (isWord_natText n).1))
      | between bounds =>
          exact isReadable_call hchars (List.cons_ne_nil _ _)
            (Bounds.areReadable_arguments wording_natText bounds)
  | dateTime bounds =>
      exact isReadable_withArguments hne hchars
        (Bounds.areReadable_writtenArguments wording_dateTime bounds)
  | zonedDateTime bounds =>
      exact isReadable_withArguments hne hchars
        (Bounds.areReadable_writtenArguments wording_dateTime bounds)
  | date bounds =>
      exact isReadable_withArguments hne hchars
        (Bounds.areReadable_writtenArguments wording_date bounds)
  | time bounds =>
      exact isReadable_withArguments hne hchars
        (Bounds.areReadable_writtenArguments wording_time bounds)
  | ukDate bounds =>
      exact isReadable_withArguments hne hchars
        (Bounds.areReadable_writtenArguments wording_date bounds)
  | _ => exact .word hne hchars

theorem length_eq_of_phrase_eq {rule₁ rule₂ : LengthRule}
    (h : (length rule₁).phrase = (length rule₂).phrase) : rule₁ = rule₂ := by
  cases rule₁ with
  | exactly n₁ =>
      cases rule₂ with
      | exactly n₂ =>
          simp only [phrase, oneWord, Phrase.call.injEq, List.cons.injEq, Phrase.word.injEq,
            and_true] at h
          rw [Decimal.natText_injective h.2]
      | between bounds₂ => simp [phrase, Bounds.arguments] at h
  | between bounds₁ =>
      cases rule₂ with
      | exactly n₂ => simp [phrase, Bounds.arguments] at h
      | between bounds₂ =>
          rw [Bounds.arguments_injective wording_natText bounds₁.each_true bounds₂.each_true
            (Phrase.call.inj h).2]

/-- A test that has been read is determined by its phrase. -/
theorem eq_of_phrase_eq (h₁ : test₁.IsRead) (h₂ : test₂.IsRead) (h : test₁.phrase = test₂.phrase) :
    test₁ = test₂ := by
  have hkeyword : test₁.keyword = test₂.keyword := by
    have hkeywords := congrArg Phrase.keyword? h
    rw [keyword?_phrase, keyword?_phrase] at hkeywords
    exact Option.some.inj hkeywords
  -- Different kinds of tests have different keywords.
  cases test₁ <;> cases test₂ <;> first | rfl | (simp [keyword] at hkeyword; done) | skip
  case regex.regex pattern₁ pattern₂ =>
    simp only [phrase, Phrase.call.injEq, List.cons.injEq, Phrase.quoted.injEq, and_true] at h
    simp only [IsRead] at h₁ h₂
    rw [h.2, h₂] at h₁
    rw [Option.some.inj h₁]
  case range.range bounds₁ bounds₂ =>
    rw [Bounds.arguments_injective wording_binary64 h₁ h₂ (Phrase.call.inj h).2]
  case length.length rule₁ rule₂ => rw [length_eq_of_phrase_eq h]
  case dateTime.dateTime bounds₁ bounds₂ =>
    rw [Bounds.writtenArguments_injective wording_dateTime h₁ h₂
      (Phrase.withArguments_injective h)]
  case zonedDateTime.zonedDateTime bounds₁ bounds₂ =>
    rw [Bounds.writtenArguments_injective wording_dateTime h₁ h₂
      (Phrase.withArguments_injective h)]
  case date.date bounds₁ bounds₂ =>
    rw [Bounds.writtenArguments_injective wording_date bounds₁.each_true bounds₂.each_true
      (Phrase.withArguments_injective h)]
  case time.time bounds₁ bounds₂ =>
    rw [Bounds.writtenArguments_injective wording_time h₁ h₂
      (Phrase.withArguments_injective h)]
  case ukDate.ukDate bounds₁ bounds₂ =>
    rw [Bounds.writtenArguments_injective wording_date bounds₁.each_true bounds₂.each_true
      (Phrase.withArguments_injective h)]

end ValueTest

end CsvSchema
