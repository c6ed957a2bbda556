import CsvSchema.Proofs.Csv.Bytes
import CsvSchema.Proofs.Independence.Rows
import CsvSchema.Proofs.WellFormed.Documents

/-!
# Files and records

A file can be given as text, as bytes, or as a header and records that were read elsewhere.  It does
not matter which as long as the records can be written, `Schema.validateText_writeText`.
-/

namespace CsvSchema

open Text (bytesOf)

namespace Schema

/-- The records that a file has: a header is one of them where a schema has a header. -/
def fileRecords (schema : Schema) (header : Option (List String)) (rows : List (List String)) :
    List (List String) :=
  if schema.settings.noHeader then rows else header.toList ++ rows

variable {schema : Schema} (options : Options) (storage : Storage)

/-- The bytes of a text are validated like the text. -/
theorem validateBytes_bytesOf (hseparator : IsSeparator schema.settings.separator)
    (text : String) :
    schema.validateBytes options storage (bytesOf text) =
      schema.validateText options storage text := by
  rw [validateBytes, validateText, Csv.readBytes_bytesOf hseparator, List.map_map]
  rfl

/-- The records of a file are validated like a header and records. -/
theorem validateFile_fileRecords {header : Option (List String)}
    (hheader : schema.settings.noHeader = false → header.isSome) (rows : List (List String)) :
    schema.validateFile options storage ((schema.fileRecords header rows).map .ok) =
      schema.validateRecords options storage header rows := by
  cases hnone : schema.settings.noHeader with
  | true => simp only [fileRecords, validateFile, validateRecords, hnone, if_true]
  | false =>
      obtain ⟨header, rfl⟩ := Option.isSome_iff_exists.1 (hheader hnone)
      rw [fileRecords, hnone, if_neg Bool.false_ne_true, Option.toList_some, List.singleton_append,
        validateFile_header hnone]

/-- What is written is validated like the records from which it is written. -/
theorem validateText_writeText {tree : Node} (h : ofTree tree = .ok schema)
    (header : Option (List String)) (rows : List (List String))
    (hheader : schema.settings.noHeader = false → header.isSome)
    (hrecords : ∀ record ∈ schema.fileRecords header rows, record ≠ [])
    (hwritable : Csv.Writable schema.settings (schema.fileRecords header rows)) :
    let text := Csv.writeText schema.settings (schema.fileRecords header rows)
    schema.validateText options storage text =
        schema.validateRecords options storage header rows ∧
      schema.validateBytes options storage (bytesOf text) =
        schema.validateRecords options storage header rows := by
  intro text
  have hseparator : IsSeparator schema.settings.separator := isSeparator_of_ofTree h
  have htext : schema.validateText options storage text =
      schema.validateRecords options storage header rows := by
    rw [validateText, Csv.readText_writeText hseparator hrecords hwritable,
      validateFile_fileRecords options storage hheader]
  exact ⟨htext, (validateBytes_bytesOf options storage hseparator text).trans htext⟩

/-- The tree of a schema with two columns that may hold anything, by its directives. -/
def treeWithDirectives (directives : List Child) : Node :=
  ⟨"schema", [.node "prolog" (.token "version 1.0" :: directives) none,
    .node "body" [.node "column_definition" [.token "a:", .node "column_rule" [] none] none,
      .node "column_definition" [.token "b:", .node "column_rule" [] none] none] none], none⟩

/-- Fields with quotes, a separator, and line feeds in a file with quotes, and records of
different lengths in a file without quotes and without a header. -/
theorem validateText_writeText_of_quotes_and_ragged :
    let header := ["a", "b"]
    let quotedRows := [["say \"x\"", "p,\nq"], ["", ""]]
    let raggedRows := [["x", "y"], ["", "", "z"]]
    let validates (schema : Schema) (header : Option (List String)) (rows : List (List String))
        (text : String) : Prop :=
      Csv.writeText schema.settings (schema.fileRecords header rows) = text ∧
        schema.validateText .initial MemoryStorage.empty.toStorage text =
          schema.validateRecords .initial MemoryStorage.empty.toStorage header rows
    ∃ quoted headless : Schema,
      ofTree (treeWithDirectives [.node "global_directives"
        [.node "quoted_directive" [] none] none]) = .ok quoted ∧
      ofTree (treeWithDirectives [.node "global_directives"
        [.node "no_header_directive" [] none] none]) = .ok headless ∧
      validates quoted (some header) quotedRows
        "\"a\",\"b\"\n\"say \"\"x\"\"\",\"p,\nq\"\n\"\",\"\"\n" ∧
      validates headless none raggedRows "x,y\n,,z\n" := by
  intro header quotedRows raggedRows validates
  let columns : List ColumnDefinition := [⟨"a", ⟨[], .initial⟩⟩, ⟨"b", ⟨[], .initial⟩⟩]
  let quoted : Schema := ⟨.v10, { FileSettings.initial with quoted := true }, columns, 0⟩
  let headless : Schema := ⟨.v10, { FileSettings.initial with noHeader := true }, columns, 0⟩
  have hquoted : ofTree (treeWithDirectives [.node "global_directives"
      [.node "quoted_directive" [] none] none]) = .ok quoted := by
    with_unfolding_all rfl
  have hheadless : ofTree (treeWithDirectives [.node "global_directives"
      [.node "no_header_directive" [] none] none]) = .ok headless := by
    with_unfolding_all rfl
  have hquotedText : Csv.writeText quoted.settings (quoted.fileRecords (some header) quotedRows) =
      "\"a\",\"b\"\n\"say \"\"x\"\"\",\"p,\nq\"\n\"\",\"\"\n" := by
    rw [← String.toList_inj, Csv.writeText, String.toList_ofList]
    decide
  have hheadlessText : Csv.writeText headless.settings (headless.fileRecords none raggedRows) =
      "x,y\n,,z\n" := by
    rw [← String.toList_inj, Csv.writeText, String.toList_ofList]
    decide
  have hfields : ∀ record ∈ headless.fileRecords none raggedRows, ∀ field ∈ record,
      ∀ c ∈ field.toList, c ≠ ',' ∧ c ≠ '\r' ∧ c ≠ '\n' := by
    intro record hrecord field hfield c hc
    have hall : (raggedRows.all fun record => record.all fun field => field.toList.all fun c =>
        c != ',' && c != '\r' && c != '\n') = true := by
      decide
    have hfields := List.all_eq_true.1 (List.all_eq_true.1 hall record hrecord) field hfield
    simpa [and_assoc] using List.all_eq_true.1 hfields c hc
  have hplain : Csv.Writable headless.settings (headless.fileRecords none raggedRows) :=
    .plain rfl hfields (by decide) (by rw [hheadlessText]; decide)
  have hquotedValid := (validateText_writeText .initial MemoryStorage.empty.toStorage hquoted
    (some header) quotedRows (fun _ => rfl) (by decide) (.quoted rfl (by decide))).1
  have hheadlessValid := (validateText_writeText .initial MemoryStorage.empty.toStorage hheadless
    none raggedRows (fun h => absurd h (by decide)) (by decide) hplain).1
  rw [hquotedText] at hquotedValid
  rw [hheadlessText] at hheadlessValid
  exact ⟨quoted, headless, hquoted, hheadless, ⟨hquotedText, hquotedValid⟩,
    ⟨hheadlessText, hheadlessValid⟩⟩

end Schema

end CsvSchema
