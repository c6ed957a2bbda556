import CsvSchema.Csv.Reader
import CsvSchema.Proofs.WellFormed.Basic

/-!
# Writing CSV

A file is written with a separator between the fields of a record and a line feed behind each
record.  Where fields may be quoted, every field is, and then it can be any text; else it must not
hold what ends a field.  Reading undoes writing, `readText_writeText`.
-/

namespace CsvSchema.Csv

/-- What stands for a character inside quotes: a quote is written twice. -/
def quotedChar (c : Char) : List Char := if c = '"' then ['"', '"'] else [c]

/-- A field in quotes. -/
def quotedField (field : List Char) : List Char := '"' :: field.flatMap quotedChar ++ ['"']

/-- A field as it stands in a file with some settings. -/
def writeField (settings : FileSettings) (field : List Char) : List Char :=
  if settings.quoted then quotedField field else field

/-- The line of a record. -/
def writeRecord (settings : FileSettings) (record : List (List Char)) : List Char :=
  List.intercalate [settings.separator] (record.map (writeField settings)) ++ ['\n']

/-- The text of a file with some records. -/
def writeText (settings : FileSettings) (records : List (List String)) : String :=
  String.ofList (records.flatMap fun record => writeRecord settings (record.map String.toList))

/-- Records that can be written in a file with some settings so that they can be read again.  In
quotes everything can; without them a field ends where a separator or a line does, a line without
anything is no record, and a mark in front of the text is dropped. -/
inductive Writable (settings : FileSettings) (records : List (List String)) : Prop
  | quoted (hquoted : settings.quoted = true) (hseparator : settings.separator ≠ '"')
  | plain (hquoted : settings.quoted = false)
      (hfields : ∀ record ∈ records, ∀ field ∈ record, ∀ c ∈ field.toList,
        c ≠ settings.separator ∧ c ≠ '\r' ∧ c ≠ '\n')
      (hempty : [""] ∉ records)
      (hmark : ¬['\uFEFF'] <+: (writeText settings records).toList)

section Places

variable {σ : Type}

/-- Put symbols in front of the first field of the first record. -/
def addSymbols (symbols : List σ) (records : List (List (List σ))) : List (List (List σ)) :=
  symbols.foldr addSymbol records

theorem addSymbols_cons (symbols field : List σ) (fields : List (List σ))
    (records : List (List (List σ))) :
    addSymbols symbols ((field :: fields) :: records) =
      ((symbols ++ field) :: fields) :: records := by
  induction symbols with
  | nil => rfl
  | cons c symbols ih =>
      rw [addSymbols] at ih ⊢
      rw [List.foldr_cons, ih]
      rfl

end Places

section Fields

variable {settings : FileSettings}

/-- Symbols from which a field comes back, up to the symbol that ends it. -/
def ReadsBack (settings : FileSettings) (written field : List Char) : Prop :=
  ∀ c rest, c = settings.separator ∨ c = '\n' →
    recordsFrom (charDialect settings) .fieldStart (written ++ c :: rest) =
      addSymbols field (recordsFrom (charDialect settings) .plain (c :: rest))

theorem recordsFrom_separator (rest : List Char) :
    recordsFrom (charDialect settings) .plain (settings.separator :: rest) =
      addField (recordsFrom (charDialect settings) .fieldStart rest) := by
  simp [recordsFrom, Dialect.move, Dialect.plainMove, charDialect]

theorem recordsFrom_lineFeed (hseparator : IsSeparator settings.separator) (rest : List Char) :
    recordsFrom (charDialect settings) .plain ('\n' :: rest) =
      [[]] :: recordsFrom (charDialect settings) .lineStart rest := by
  simp [recordsFrom, Dialect.move, Dialect.plainMove, Dialect.endsLine, charDialect,
    hseparator.2.1.symm]

/-- At the start of a line only the end of a line is special. -/
theorem recordsFrom_lineStart {c : Char} (hreturn : c ≠ '\r') (hfeed : c ≠ '\n')
    (rest : List Char) :
    recordsFrom (charDialect settings) .lineStart (c :: rest) =
      recordsFrom (charDialect settings) .fieldStart (c :: rest) := by
  simp [recordsFrom, Dialect.move, Dialect.endsLine, charDialect, hreturn, hfeed]

/-- Inside quotes a character is kept as it is, and a quote that is doubled is one quote. -/
theorem recordsFrom_quoted (hquoted : settings.quoted = true) (field rest : List Char) :
    recordsFrom (charDialect settings) .quoted (field.flatMap quotedChar ++ rest) =
      addSymbols field (recordsFrom (charDialect settings) .quoted rest) := by
  induction field with
  | nil => rfl
  | cons c field ih =>
      rw [List.flatMap_cons, List.append_assoc, addSymbols, List.foldr_cons, ← addSymbols, ← ih]
      unfold quotedChar
      split
      · rename_i hc
        subst hc
        simp [recordsFrom, Dialect.move, charDialect, hquoted]
      · rename_i hc
        simp [recordsFrom, Dialect.move, charDialect, hquoted, Ne.symm hc]

theorem readsBack_quotedField (hquoted : settings.quoted = true)
    (hseparator : settings.separator ≠ '"') (field : List Char) :
    ReadsBack settings (quotedField field) field := by
  intro c rest hc
  have hclosed : recordsFrom (charDialect settings) .quoted ('"' :: c :: rest) =
      recordsFrom (charDialect settings) .plain (c :: rest) := by
    have hne : '"' ≠ c := by
      rcases hc with rfl | rfl
      · exact hseparator.symm
      · decide
    simp [recordsFrom, Dialect.move, charDialect, hquoted, hne]
  have hopened : ∀ s, recordsFrom (charDialect settings) .fieldStart ('"' :: s) =
      recordsFrom (charDialect settings) .quoted s := by
    intro s
    simp [recordsFrom, Dialect.move, Dialect.openingMove, charDialect, hquoted]
  rw [quotedField, List.cons_append, List.cons_append, hopened, List.append_assoc,
    recordsFrom_quoted hquoted, List.singleton_append, hclosed]

/-- Without quotes a field that has nothing in it that ends it is read as it is written. -/
theorem readsBack_plain (hquoted : settings.quoted = false) {field : List Char}
    (hfield : ∀ c ∈ field, c ≠ settings.separator ∧ c ≠ '\r' ∧ c ≠ '\n') :
    ReadsBack settings field field := by
  intro c rest hc
  have hstart : ∀ c rest, recordsFrom (charDialect settings) .fieldStart (c :: rest) =
      recordsFrom (charDialect settings) .plain (c :: rest) := by
    intro c rest
    simp [recordsFrom, Dialect.move, Dialect.openingMove, charDialect, hquoted]
  have hplain : recordsFrom (charDialect settings) .plain (field ++ c :: rest) =
      addSymbols field (recordsFrom (charDialect settings) .plain (c :: rest)) := by
    induction field with
    | nil => rfl
    | cons first field ih =>
        obtain ⟨hfirst, hfield⟩ := List.forall_mem_cons.1 hfield
        rw [addSymbols, List.foldr_cons, ← addSymbols, ← ih hfield]
        simp [recordsFrom, Dialect.move, Dialect.plainMove, Dialect.endsLine, charDialect, hfirst]
  cases field with
  | nil => rw [List.nil_append, hstart, ← hplain, List.nil_append]
  | cons first field => rw [List.cons_append, hstart, ← hplain, List.cons_append]

end Fields

section Records

variable {settings : FileSettings}

theorem writeRecord_singleton (field : List Char) :
    writeRecord settings [field] = writeField settings field ++ ['\n'] := by
  rw [writeRecord, List.map_cons, List.map_nil, List.intercalate_singleton]

theorem writeRecord_cons_cons (field next : List Char) (others : List (List Char)) :
    writeRecord settings (field :: next :: others) =
      writeField settings field ++ settings.separator :: writeRecord settings (next :: others) := by
  rw [writeRecord, List.map_cons, List.map_cons, List.intercalate_cons_cons, ← List.map_cons,
    writeRecord, List.append_assoc, List.append_assoc]
  rfl

/-- Fields that come back one by one come back as a record. -/
theorem recordsFrom_fieldStart (hseparator : IsSeparator settings.separator)
    {record : List (List Char)} (hne : record ≠ [])
    (hrecord : ∀ field ∈ record, ReadsBack settings (writeField settings field) field)
    (rest : List Char) :
    recordsFrom (charDialect settings) .fieldStart (writeRecord settings record ++ rest) =
      record :: recordsFrom (charDialect settings) .lineStart rest := by
  induction record with
  | nil => exact absurd rfl hne
  | cons field others ih =>
      obtain ⟨hfield, hothers⟩ := List.forall_mem_cons.1 hrecord
      cases others with
      | nil =>
          rw [writeRecord_singleton, List.append_assoc, List.singleton_append,
            hfield _ _ (.inr rfl), recordsFrom_lineFeed hseparator, addSymbols_cons,
            List.append_nil]
      | cons next others =>
          specialize ih (List.cons_ne_nil _ _) hothers
          rw [writeRecord_cons_cons, List.append_assoc, List.cons_append, hfield _ _ (.inl rfl),
            recordsFrom_separator, ih]
          simp only [addField, addSymbols_cons, List.append_nil]

/-- A record in quotes starts with a quote. -/
theorem exists_start_of_quoted (hquoted : settings.quoted = true) {record : List (List Char)}
    (hne : record ≠ []) : ∃ rest, writeRecord settings record = '"' :: rest := by
  have hwrite : ∀ field, writeField settings field = quotedField field := by
    intro field
    rw [writeField, hquoted, if_pos rfl]
  rcases record with _ | ⟨field, _ | ⟨next, others⟩⟩
  · exact absurd rfl hne
  · rw [writeRecord_singleton, hwrite, quotedField]
    exact ⟨_, rfl⟩
  · rw [writeRecord_cons_cons, hwrite, quotedField]
    exact ⟨_, rfl⟩

/-- A record without quotes starts with its first field or, where that is empty, with the separator
behind it. -/
theorem exists_start_of_plain (hseparator : IsSeparator settings.separator)
    (hquoted : settings.quoted = false) {record : List (List Char)} (hne : record ≠ [])
    (hempty : record ≠ [[]])
    (hrecord : ∀ field ∈ record, ∀ c ∈ field, c ≠ settings.separator ∧ c ≠ '\r' ∧ c ≠ '\n') :
    ∃ c rest, writeRecord settings record = c :: rest ∧ c ≠ '\r' ∧ c ≠ '\n' := by
  have hwrite : ∀ field, writeField settings field = field := by
    intro field
    rw [writeField, hquoted, if_neg Bool.false_ne_true]
  rcases record with _ | ⟨field, others⟩
  · exact absurd rfl hne
  · rcases field with _ | ⟨c, field⟩
    · rcases others with _ | ⟨next, others⟩
      · exact absurd rfl hempty
      · rw [writeRecord_cons_cons, hwrite]
        exact ⟨_, _, rfl, hseparator.2.2, hseparator.2.1⟩
    · have hc := (hrecord _ List.mem_cons_self c List.mem_cons_self).2
      rcases others with _ | ⟨next, others⟩
      · rw [writeRecord_singleton, hwrite]
        exact ⟨_, _, rfl, hc⟩
      · rw [writeRecord_cons_cons, hwrite]
        exact ⟨_, _, rfl, hc⟩

/-- A record that can be written comes back from its line. -/
structure RecordReadsBack (settings : FileSettings) (record : List (List Char)) : Prop where
  nonempty : record ≠ []
  fields : ∀ field ∈ record, ReadsBack settings (writeField settings field) field
  start : ∃ c rest, writeRecord settings record = c :: rest ∧ c ≠ '\r' ∧ c ≠ '\n'

/-- Lines of records that come back one by one come back all together. -/
theorem recordsFrom_lines (hseparator : IsSeparator settings.separator)
    {records : List (List (List Char))}
    (hrecords : ∀ record ∈ records, RecordReadsBack settings record) :
    recordsFrom (charDialect settings) .lineStart (records.flatMap (writeRecord settings)) =
      records := by
  induction records with
  | nil => rfl
  | cons record others ih =>
      obtain ⟨hrecord, hothers⟩ := List.forall_mem_cons.1 hrecords
      obtain ⟨c, line, hline, hreturn, hfeed⟩ := hrecord.start
      rw [List.flatMap_cons, hline, List.cons_append, recordsFrom_lineStart hreturn hfeed,
        ← List.cons_append, ← hline,
        recordsFrom_fieldStart hseparator hrecord.nonempty hrecord.fields, ih hothers]

theorem dropMark_of_absent {σ : Type} [BEq σ] [LawfulBEq σ] {mark s : List σ}
    (h : ¬mark <+: s) : dropMark mark s = s := by
  cases hdrop : Text.dropStart? mark s with
  | none => rw [dropMark, hdrop, Option.getD_none]
  | some rest =>
      rw [Text.dropStart?_eq_some_iff] at hdrop
      exact absurd ⟨rest, hdrop.symm⟩ h

/-- Every record of some that can be written comes back from its line. -/
theorem Writable.recordReadsBack (hseparator : IsSeparator settings.separator)
    {records : List (List String)} (h : Writable settings records) {record : List String}
    (hrecord : record ∈ records) (hne : record ≠ []) :
    RecordReadsBack settings (record.map String.toList) := by
  have hne' : record.map String.toList ≠ [] := by simpa using hne
  cases h with
  | quoted hquoted hquote =>
      refine ⟨hne', fun field _ => ?_, ?_⟩
      · rw [writeField, hquoted, if_pos rfl]
        exact readsBack_quotedField hquoted hquote field
      · obtain ⟨rest, hrest⟩ := exists_start_of_quoted hquoted hne'
        exact ⟨_, rest, hrest, by decide, by decide⟩
  | plain hquoted hfields hempty hmark =>
      have hplain : ∀ field ∈ record.map String.toList, ∀ c ∈ field,
          c ≠ settings.separator ∧ c ≠ '\r' ∧ c ≠ '\n' := by
        intro field hfield
        obtain ⟨text, htext, rfl⟩ := List.mem_map.1 hfield
        exact hfields record hrecord text htext
      refine ⟨hne', fun field hfield => ?_, ?_⟩
      · rw [writeField, hquoted, if_neg Bool.false_ne_true]
        exact readsBack_plain hquoted (hplain field hfield)
      · refine exists_start_of_plain hseparator hquoted hne' (fun hsingle => ?_) hplain
        obtain ⟨text, rfl, htext⟩ := List.map_eq_singleton_iff.1 hsingle
        rw [String.toList_eq_nil_iff] at htext
        exact hempty (htext ▸ hrecord)

theorem Writable.not_starts_with_mark {records : List (List String)} (h : Writable settings records)
    (hrecords : ∀ record ∈ records, record ≠ []) :
    ¬['\uFEFF'] <+: (writeText settings records).toList := by
  cases h with
  | plain hquoted hfields hempty hmark => exact hmark
  | quoted hquoted hquote =>
      cases records with
      | nil => exact show ¬['\uFEFF'] <+: [] by decide
      | cons record others =>
          have hne : record.map String.toList ≠ [] := by
            simpa using hrecords record List.mem_cons_self
          obtain ⟨rest, hrest⟩ := exists_start_of_quoted hquoted hne
          rw [writeText, String.toList_ofList, List.flatMap_cons, hrest, List.cons_append,
            List.cons_prefix_cons]
          exact fun h => absurd h.1 (by decide)

/-- Reading undoes writing. -/
theorem readText_writeText (hseparator : IsSeparator settings.separator)
    {records : List (List String)} (hrecords : ∀ record ∈ records, record ≠ [])
    (hwritable : Writable settings records) :
    readText settings (writeText settings records) = records := by
  have hlines : ∀ record ∈ records.map (·.map String.toList), RecordReadsBack settings record := by
    intro record hrecord
    obtain ⟨texts, htexts, rfl⟩ := List.mem_map.1 hrecord
    exact hwritable.recordReadsBack hseparator htexts (hrecords texts htexts)
  have htexts : ∀ record : List String, (record.map String.toList).map String.ofList = record := by
    intro record
    simp
  rw [readText, dropMark_of_absent (hwritable.not_starts_with_mark hrecords), writeText,
    String.toList_ofList, ← List.flatMap_map, recordsFrom_lines hseparator hlines, List.map_map]
  exact (List.map_congr_left fun record _ => htexts record).trans (List.map_id records)

end Records

end CsvSchema.Csv
