import CsvSchema.Schema.Basic
import CsvSchema.Text.Utf8

/-!
# Reading CSV

A file is a list of records, each a list of fields.  Records end with a carriage return, a line
feed, or both, and lines without anything are no records.  Where fields may be quoted, a quote at
the start of a field encloses it, and a quote inside is written twice; what follows a closing quote
still belongs to the field.  Records may differ in length.

The same reader works on characters and on bytes, because everything that it looks for is ASCII.
-/

namespace CsvSchema.Csv

/-- What a reader looks for, in symbols of some kind. -/
structure Dialect (σ : Type) where
  separator : σ
  /-- What encloses a field, if fields may be enclosed. -/
  quote : Option σ
  carriageReturn : σ
  lineFeed : σ

/-- Where a reader stands. -/
inductive Place where
  | lineStart
  | fieldStart
  | plain
  | quoted
  | afterQuote
  deriving Repr, DecidableEq

/-- What a reader does with a symbol. -/
inductive Move where
  | skip
  | endField
  | endRecord
  | keep (next : Place)
  | drop (next : Place)
  deriving Repr, DecidableEq

section

variable {σ : Type} [BEq σ]

/-- Whether a symbol ends a line. -/
def Dialect.endsLine (d : Dialect σ) (c : σ) : Bool := c == d.carriageReturn || c == d.lineFeed

/-- What is done with a symbol that is not looked at as a quote. -/
def Dialect.plainMove (d : Dialect σ) (c : σ) : Move :=
  if c == d.separator then .endField else if d.endsLine c then .endRecord else .keep .plain

/-- What is done with a symbol that may open a quoted field. -/
def Dialect.openingMove (d : Dialect σ) (c : σ) : Move :=
  if d.quote == some c then .drop .quoted else d.plainMove c

/-- What is done with a symbol. -/
def Dialect.move (d : Dialect σ) : Place → σ → Move
  | .lineStart, c => if d.endsLine c then .skip else d.openingMove c
  | .fieldStart, c => d.openingMove c
  | .plain, c => d.plainMove c
  | .quoted, c => if d.quote == some c then .drop .afterQuote else .keep .quoted
  | .afterQuote, c => if d.quote == some c then .keep .quoted else d.plainMove c

/-- Put a symbol in front of the first field of the first record. -/
def addSymbol (c : σ) : List (List (List σ)) → List (List (List σ))
  | (field :: fields) :: records => ((c :: field) :: fields) :: records
  | [] :: records => [[c]] :: records
  | [] => [[[c]]]

/-- Put an empty field in front of the first record. -/
def addField : List (List (List σ)) → List (List (List σ))
  | record :: records => ([] :: record) :: records
  | [] => [[[]]]

/-- The records from a place on.  Except at the start of a line, the first of them is
the rest of a record, and its first field the rest of a field. -/
def recordsFrom (d : Dialect σ) : Place → List σ → List (List (List σ))
  | .lineStart, [] => []
  | _, [] => [[[]]]
  | place, c :: rest =>
      match d.move place c with
      | .skip => recordsFrom d .lineStart rest
      | .endField => addField (recordsFrom d .fieldStart rest)
      | .endRecord => [[]] :: recordsFrom d .lineStart rest
      | .keep next => addSymbol c (recordsFrom d next rest)
      | .drop next => recordsFrom d next rest

end

/-- The dialect of a schema, in characters. -/
def charDialect (settings : FileSettings) : Dialect Char :=
  ⟨settings.separator, if settings.quoted then some '"' else none, '\r', '\n'⟩

/-- The dialect of a schema, in bytes. -/
def byteDialect (settings : FileSettings) : Dialect UInt8 :=
  ⟨settings.separator.toUInt8, if settings.quoted then some 0x22 else none, 0x0D, 0x0A⟩

/-- Drop a byte order mark. -/
def dropMark {σ : Type} [BEq σ] (mark text : List σ) : List σ :=
  (Text.dropStart? mark text).getD text

/-- The records of a text. -/
def readText (settings : FileSettings) (text : String) : List (List String) :=
  (recordsFrom (charDialect settings) .lineStart (dropMark ['\uFEFF'] text.toList)).map
    (·.map String.ofList)

/-- The records of a file.  A record is missing if one of its fields is not text. -/
def readBytes (settings : FileSettings) (bytes : List UInt8) : List (Option (List String)) :=
  (recordsFrom (byteDialect settings) .lineStart (dropMark [0xEF, 0xBB, 0xBF] bytes)).map
    (·.mapM Text.text?)

end CsvSchema.Csv
