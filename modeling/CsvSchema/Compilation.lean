import CsvSchema.Reduction.Basic
import CsvSchema.Schema.Rendering
import CsvSchema.Tree.Json
import CsvSchema.Text.Lines
import CsvSchema.Text.Utf8

/-!
# Compiling schemas

A schema is compiled from a parse tree or from the JSON text of one, and identified by the digest
of its canonical text.  The version of a schema can be read from its first line without parsing the
rest.
-/

namespace CsvSchema

/-- The SHA-256 digest of the text of a schema, in hexadecimal. -/
def Schema.fingerprint (schema : Schema) : String :=
  HashAlgorithm.sha256.hexDigest (Text.bytesOf schema.text)

/-- What is said of a text that is no tree in JSON.  What the reader of JSON says about it, which
stands after a colon at the end of the message, is left out. -/
def Diagnostic.notJson : Diagnostic :=
  (Diagnostic.new 103 "parse tree is not valid JSON").withSuggestion
    "expected \x7b\"tag\": ..., \"children\": [...]\x7d nodes"

/-- The schema whose parse tree a JSON text holds. -/
def Schema.ofJson (text : String) : Except Diagnostic Schema :=
  match Node.read? text with
  | some tree => Schema.ofTree tree
  | none => .error .notJson

/-- What follows the keyword of a version declaration, which has a blank after it. -/
def versionNumber? (line : List Char) : Option (List Char) :=
  match Text.dropStart? "version".toList (Text.trim line) with
  | some (c :: rest) => if Text.isBlank c then some (c :: rest) else none
  | _ => none

/-- The version that the first line of a schema document declares. -/
def Version.sniff (text : String) : Except Diagnostic Version :=
  match Text.firstNonBlankLine text with
  | none => .error (.new 400 "schema is empty, expected a version declaration")
  | some (number, line) =>
      let span := Span.ofLine number line.utf8ByteSize
      match versionNumber? line.toList with
      | none =>
          .error (((Diagnostic.new 400 ("expected 'version <n>', found '" ++ Text.trimmed line ++
            "'")).atNode "version_decl" span).withSuggestion
              "start the schema with a line such as 'version 1.2'")
      | some declared =>
          match Version.ofText? (String.ofList declared) with
          | some version => .ok version
          | none =>
              .error ((Diagnostic.new 401
                (Version.unsupported (String.ofList declared))).atNode "version_decl" span)

end CsvSchema
