import Mathlib.Data.List.DropRight
import CsvSchema.Compilation
import CsvSchema.Reduction.Document
import CsvSchema.Proofs.Storage.Paths

/-!
# Version declarations

The version of a schema is read twice: from the first line of a document, where a blank has to stand
between the keyword and the number, and from the token of a parse tree, where the keyword may be
left out and the number may be quoted.  For a line with the keyword both find the same version if
and only if the line keeps to the stricter form, `Version.sniff_eq_ok_iff`.
-/

namespace CsvSchema

namespace Text

/-- Blanks in front are gone as well after those at the end were taken off. -/
theorem trimStart_trimEnd_trimStart (s : List Char) :
    trimStart (trimEnd (trimStart s)) = trimEnd (trimStart s) := by
  rw [trimStart, List.dropWhile_eq_self_iff]
  intro hpos
  -- What is left starts like the text without the blanks in front.
  have hstarts : trimEnd (trimStart s) <+: trimStart s := List.rdropWhile_prefix isBlank _
  have hstart : trimStart s ≠ [] := List.ne_nil_of_length_pos (hpos.trans_le hstarts.length_le)
  rw [hstarts.getElem hpos, List.getElem_zero_eq_head]
  simpa [trimStart] using List.head_dropWhile_not isBlank hstart

@[simp] theorem trim_trim (s : List Char) : trim (trim s) = trim s := by
  unfold trim
  rw [trimStart_trimEnd_trimStart]
  exact List.rdropWhile_idempotent isBlank _

/-- A line by itself is the first line of a document, unless it is blank. -/
theorem firstNonBlankLine_of_single {text : String}
    (hline : ∀ c ∈ text.toList, c ≠ '\r' ∧ c ≠ '\n') (hblank : trim text.toList ≠ []) :
    firstNonBlankLine text = some (1, text) := by
  have hsplit : splitOn '\n' text.toList = [text.toList] :=
    splitWhere_of_forall_not fun c hc => beq_eq_false_iff_ne.2 (hline c hc).2
  have hreturn : dropEndWhile (· == '\r') text.toList = text.toList := by
    refine List.rdropWhile_eq_self_iff.2 fun hne => ?_
    simpa using (hline _ (List.getLast_mem hne)).1
  rw [firstNonBlankLine, hsplit, firstNonBlankFrom, hreturn]
  simp [hblank]

/-- What does not start with the keyword keeps all of its characters. -/
theorem dropStartRepeatedly_append {start rest : List Char} (hstart : start ≠ [])
    (hrest : dropStart? start rest = none) :
    dropStartRepeatedly start (start ++ rest) = rest := by
  have honce : dropStart? start (start ++ rest) = some rest := dropStart?_eq_some_iff.2 rfl
  rw [dropStartRepeatedly]
  split
  · rename_i hnone
    rw [honce] at hnone
    cases hnone
  · rename_i found hfound
    rw [honce] at hfound
    cases hfound
    rw [if_neg hstart, dropStartRepeatedly]
    split
    · rfl
    · rename_i found hfound
      rw [hrest] at hfound
      cases hfound

theorem unquote_of_bare {s : List Char} (hdouble : isQuotedBy '"' (trim s) = false)
    (hsingle : isQuotedBy '\'' (trim s) = false) : unquote s = trim s := by
  simp only [unquote, hdouble, hsingle, Bool.or_self, Bool.false_eq_true, if_false]

end Text

namespace Version

open Text (trim isBlank isQuotedBy)

/-- What a declaration goes on with after the keyword, where it is written without quotes: a blank
at least, and then the number. -/
structure IsPlain (rest : List Char) : Prop where
  spaced : ∃ c others, rest = c :: others ∧ isBlank c = true
  bare : isQuotedBy '"' (trim rest) = false ∧ isQuotedBy '\'' (trim rest) = false

variable {text : String} {rest : List Char} {version : Version}

theorem ofText?_trim (s : List Char) :
    ofText? (String.ofList (trim s)) = ofText? (String.ofList s) := by
  simp only [ofText?, Text.trimmed, String.toList_ofList, Text.trim_trim]

/-- No version has a number in quotes. -/
theorem not_isQuotedBy_of_ofText? (h : ofText? (String.ofList rest) = some version) (quote : Char)
    (hquote : quote ≠ '1') : isQuotedBy quote (trim rest) = false := by
  have hnumber : trim rest = version.text.toList := by
    unfold ofText? at h
    simp only [Text.trimmed, String.toList_ofList] at h
    split at h <;> cases h <;> rename_i heq <;>
      exact (String.toList_ofList (l := trim rest)).symm.trans (congrArg String.toList heq)
  have hstart : ∃ others, version.text.toList = '1' :: '.' :: others := by
    cases version <;> exact ⟨_, rfl⟩
  obtain ⟨others, hothers⟩ := hstart
  rw [hnumber, hothers, isQuotedBy, Bool.and_eq_false_iff]
  exact .inl (beq_eq_false_iff_ne.2 hquote.symm)

theorem isPlain_of_ofText? (hspaced : ∃ c others, rest = c :: others ∧ isBlank c = true)
    (hnumber : ofText? (String.ofList rest) = some version) : IsPlain rest where
  spaced := hspaced
  bare := ⟨not_isQuotedBy_of_ofText? hnumber _ (by decide),
    not_isQuotedBy_of_ofText? hnumber _ (by decide)⟩

/-- Read from the first line of a document, a version needs a blank after the keyword. -/
theorem sniff_eq_ok_iff_ofText? (hline : ∀ c ∈ text.toList, c ≠ '\r' ∧ c ≠ '\n')
    (hkeyword : trim text.toList = "version".toList ++ rest) :
    sniff text = .ok version ↔
      (∃ c others, rest = c :: others ∧ isBlank c = true) ∧
        ofText? (String.ofList rest) = some version := by
  have hfirst := Text.firstNonBlankLine_of_single hline (by simp [hkeyword])
  have hafter := Text.dropStart?_eq_some_iff.2 hkeyword
  rw [sniff, hfirst]
  simp only [versionNumber?, hafter]
  cases rest with
  | nil => simp
  | cons c others =>
      cases hblank : isBlank c with
      | false => simp [hblank]
      | true =>
          simp only [hblank, if_true]
          have hspaced : ∃ c' others', c :: others = c' :: others' ∧ isBlank c' = true :=
            ⟨c, others, rfl, hblank⟩
          cases ofText? (String.ofList (c :: others)) with
          | none => exact iff_of_false nofun nofun
          | some found => simp only [Except.ok.injEq, Option.some_inj, and_iff_right hspaced]

/-- Read from a token, a version may have a keyword in front and quotes around it. -/
theorem reduceProlog_eq_ok_iff (settings : Option FileSettings) :
    reduceProlog (.token text :: (settings.map Part.settings).toList) =
        .ok (.prolog version (settings.getD .initial)) ↔
      ofText? (Text.declaredVersion text) = some version := by
  have hrest : splitSettings (settings.map Part.settings).toList =
      (settings.getD .initial, []) := by
    cases settings <;> rfl
  rw [reduceProlog]
  simp only [hrest]
  cases ofText? (Text.declaredVersion text) with
  | none => simp [throw, throwThe, MonadExceptOf.throw]
  | some found => simp [refuseRest, bind, Except.bind, pure, Except.pure]

/-- A number without quotes that stands by itself after the keyword is read from the token as it
is. -/
theorem ofText?_declaredVersion (hkeyword : trim text.toList = "version".toList ++ rest)
    (hplain : IsPlain rest) :
    ofText? (Text.declaredVersion text) = ofText? (String.ofList rest) := by
  obtain ⟨c, others, hrest, hblank⟩ := hplain.spaced
  have hone : Text.dropStart? "version".toList rest = none := by
    have hne : ('v' == c) = false := by
      refine beq_eq_false_iff_ne.2 fun h => ?_
      rw [← h] at hblank
      exact absurd hblank (by decide)
    rw [hrest]
    change (if 'v' == c then Text.dropStart? "ersion".toList others else none) = none
    rw [hne]
    rfl
  rw [Text.declaredVersion, hkeyword, Text.dropStartRepeatedly_append (by decide) hone,
    Text.unquote_of_bare (by simpa using hplain.bare.1) (by simpa using hplain.bare.2),
    Text.trim_trim, ofText?_trim]

/-- For a line that starts with the keyword, what the document and what the token declare is the
same version if and only if a blank stands behind the keyword and the number has no quotes; else
only the token can declare one. -/
theorem sniff_eq_ok_iff (hline : ∀ c ∈ text.toList, c ≠ '\r' ∧ c ≠ '\n')
    (hkeyword : trim text.toList = "version".toList ++ rest) (version : Version)
    (settings : Option FileSettings) :
    sniff text = .ok version ↔
      reduceProlog (.token text :: (settings.map Part.settings).toList) =
          .ok (.prolog version (settings.getD .initial)) ∧
        IsPlain rest := by
  rw [sniff_eq_ok_iff_ofText? hline hkeyword, reduceProlog_eq_ok_iff]
  constructor
  · rintro ⟨hspaced, hnumber⟩
    have hplain := isPlain_of_ofText? hspaced hnumber
    exact ⟨(ofText?_declaredVersion hkeyword hplain).trans hnumber, hplain⟩
  · rintro ⟨hdeclared, hplain⟩
    exact ⟨hplain.spaced, (ofText?_declaredVersion hkeyword hplain).symm.trans hdeclared⟩

theorem isLine_of_all {s : List Char} (h : (s.all fun c => c != '\r' && c != '\n') = true) :
    ∀ c ∈ s, c ≠ '\r' ∧ c ≠ '\n' := by
  simpa using h

/-- A tab stands between the keyword and the number, and blanks stand around both. -/
theorem sniff_eq_ok_of_tab :
    let text := "  version\t1.1 "
    (∀ c ∈ text.toList, c ≠ '\r' ∧ c ≠ '\n') ∧
      trim text.toList = "version".toList ++ ['\t', '1', '.', '1'] ∧
      IsPlain ['\t', '1', '.', '1'] ∧
      reduceProlog [.token text] = .ok (.prolog .v11 .initial) ∧ sniff text = .ok .v11 := by
  intro text
  have hline : ∀ c ∈ text.toList, c ≠ '\r' ∧ c ≠ '\n' := isLine_of_all (by decide)
  have hkeyword : trim text.toList = "version".toList ++ ['\t', '1', '.', '1'] := by decide
  have hplain : IsPlain ['\t', '1', '.', '1'] := ⟨⟨'\t', _, rfl, by decide⟩, by decide⟩
  have hsniff : sniff text = .ok .v11 := by
    rw [sniff_eq_ok_iff_ofText? hline hkeyword]
    exact ⟨hplain.spaced, by decide⟩
  have hreduced := ((sniff_eq_ok_iff hline hkeyword .v11 none).1 hsniff).1
  exact ⟨hline, hkeyword, hplain, hreduced, hsniff⟩

/-- A token can declare a version in a form that the first line of a document cannot have. -/
theorem not_sniff_iff_reduceProlog (hline : ∀ c ∈ text.toList, c ≠ '\r' ∧ c ≠ '\n')
    (hkeyword : trim text.toList = "version".toList ++ rest) (hplain : ¬IsPlain rest)
    (hdeclared : ofText? (Text.declaredVersion text) = some version) :
    ¬(sniff text = .ok version ↔ reduceProlog [.token text] = .ok (.prolog version .initial)) := by
  have hreduced : reduceProlog [.token text] = .ok (.prolog version .initial) :=
    (reduceProlog_eq_ok_iff none).2 hdeclared
  intro hagree
  obtain ⟨hspaced, hnumber⟩ := (sniff_eq_ok_iff_ofText? hline hkeyword).1 (hagree.2 hreduced)
  exact hplain (isPlain_of_ofText? hspaced hnumber)

/-- A number in quotes and one without a blank in front of it are versions in a token, but not in
the first line of a document. -/
theorem sniff_ne_of_quotes_or_no_blank :
    let quoted := "version \"1.0\""
    let joined := "version1.0"
    (∀ text ∈ [quoted, joined], (∀ c ∈ text.toList, c ≠ '\r' ∧ c ≠ '\n') ∧
      "version".toList <+: trim text.toList) ∧
    ¬(sniff quoted = .ok .v10 ↔ reduceProlog [.token quoted] = .ok (.prolog .v10 .initial)) ∧
    ¬(sniff joined = .ok .v10 ↔ reduceProlog [.token joined] = .ok (.prolog .v10 .initial)) := by
  intro quoted joined
  have hquoted : ∀ c ∈ quoted.toList, c ≠ '\r' ∧ c ≠ '\n' := isLine_of_all (by decide)
  have hjoined : ∀ c ∈ joined.toList, c ≠ '\r' ∧ c ≠ '\n' := isLine_of_all (by decide)
  have hquotedKeyword : trim quoted.toList = "version".toList ++ " \"1.0\"".toList := by decide
  have hjoinedKeyword : trim joined.toList = "version".toList ++ "1.0".toList := by decide
  refine ⟨?_, ?_, ?_⟩
  · simp only [List.forall_mem_cons, List.not_mem_nil, false_imp_iff, implies_true, and_true]
    exact ⟨⟨hquoted, _, hquotedKeyword.symm⟩, hjoined, _, hjoinedKeyword.symm⟩
  · refine not_sniff_iff_reduceProlog hquoted hquotedKeyword (fun hplain => ?_) ?_
    · exact absurd hplain.bare.1 (by decide)
    · rw [Text.declaredVersion, hquotedKeyword,
        Text.dropStartRepeatedly_append (by decide) (by decide)]
      decide
  · refine not_sniff_iff_reduceProlog hjoined hjoinedKeyword (fun hplain => ?_) ?_
    · obtain ⟨c, others, hrest, hblank⟩ := hplain.spaced
      obtain ⟨rfl, -⟩ := List.cons.inj hrest
      exact absurd hblank (by decide)
    · rw [Text.declaredVersion, hjoinedKeyword,
        Text.dropStartRepeatedly_append (by decide) (by decide)]
      decide

end Version

end CsvSchema
