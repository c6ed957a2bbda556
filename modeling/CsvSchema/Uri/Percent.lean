import CsvSchema.Text.CodeSet
import CsvSchema.Text.Utf8

/-!
# Percent encoding

A percent sign with two hexadecimal digits stands for a byte.  A percent sign without them stands
for itself, so decoding never fails; what the bytes mean is for others to say.
-/

namespace CsvSchema.Uri

/-- The value of a hexadecimal digit. -/
def hexByteDigit? (b : UInt8) : Option UInt8 :=
  (Text.hexDigit? (Char.ofNat b.toNat)).map UInt8.ofNat

/-- The byte that two hexadecimal digits write. -/
def hexByte? (first second : UInt8) : Option UInt8 :=
  match hexByteDigit? first, hexByteDigit? second with
  | some high, some low => some (high * 16 + low)
  | _, _ => none

/-- Decode some bytes.  After a percent sign the two bytes that follow are looked at
together. -/
def percentDecode : List UInt8 → List UInt8
  | b :: first :: second :: rest =>
      if b == 0x25 then
        match hexByte? first second with
        | some byte => byte :: percentDecode rest
        | none => b :: percentDecode (first :: second :: rest)
      else b :: percentDecode (first :: second :: rest)
  | bytes => bytes

/-- The bytes of a text, decoded. -/
def percentBytes (s : String) : List UInt8 := percentDecode (Text.bytesOf s)

/-- A character encoding of decoded bytes. -/
inductive Encoding where
  | utf8
  | latin1
  | ascii
  deriving Repr, DecidableEq

namespace Encoding

/-- The name by which an encoding is mentioned. -/
def name : Encoding → String
  | utf8 => "UTF-8"
  | latin1 => "ISO-8859-1"
  | ascii => "US-ASCII"

/-- The encoding with a name in upper case. -/
def ofUpperName? : String → Option Encoding
  | "UTF-8" => some utf8
  | "UTF8" => some utf8
  | "ISO-8859-1" => some latin1
  | "LATIN1" => some latin1
  | "LATIN-1" => some latin1
  | "US-ASCII" => some ascii
  | "ASCII" => some ascii
  | _ => none

/-- The text in which every byte is the character with its number. -/
def bytewise (bytes : List UInt8) : String :=
  String.ofList (bytes.map fun b => Char.ofNat b.toNat)

/-- The text that bytes encode. -/
def text? (encoding : Encoding) (bytes : List UInt8) : Option String :=
  match encoding with
  | utf8 => Text.text? bytes
  | latin1 => some (bytewise bytes)
  | ascii => if bytes.all (· < 0x80) then some (bytewise bytes) else none

end Encoding

end CsvSchema.Uri
