import CsvSchema.Digest.Sha64
import CsvSchema.Text.Utf8
import CsvSchema.Text.Blank

/-!
# Checksum algorithms

The hash functions that a checksum rule may name, and their digests in hexadecimal.
-/

namespace CsvSchema

/-- A hash function that a checksum rule may name. -/
inductive HashAlgorithm where
  | sha224
  | sha256
  | sha384
  | sha512
  | sha512of224
  | sha512of256
  deriving Repr, DecidableEq

namespace HashAlgorithm

/-- The name that is printed. -/
def name : HashAlgorithm → String
  | sha224 => "SHA-224"
  | sha256 => "SHA-256"
  | sha384 => "SHA-384"
  | sha512 => "SHA-512"
  | sha512of224 => "SHA-512/224"
  | sha512of256 => "SHA-512/256"

/-- The letters of a name that count: blanks around it, hyphens and underscores
do not, and neither does the case of ASCII letters. -/
def normalName (text : String) : String :=
  String.ofList (((Text.trim text.toList).filter fun c => c != '-' && c != '_').map Char.toUpper)

/-- The algorithm that a name means. -/
def ofName? (text : String) : Option HashAlgorithm :=
  match normalName text with
  | "SHA224" => some sha224
  | "SHA256" => some sha256
  | "SHA384" => some sha384
  | "SHA512" => some sha512
  | "SHA512/224" => some sha512of224
  | "SHA512/256" => some sha512of256
  | _ => none

/-- What is said of a name that means no algorithm. -/
def unsupported (text : String) : String :=
  "unsupported hash algorithm '" ++ Text.trimmed text ++ "'"

/-- The bytes of a digest. -/
def digest (algorithm : HashAlgorithm) (message : List UInt8) : List UInt8 :=
  match algorithm with
  | sha224 => (Digest.hash32 Digest.initial224 message).take 28
  | sha256 => Digest.hash32 Digest.initial256 message
  | sha384 => (Digest.hash64 Digest.initial384 message).take 48
  | sha512 => Digest.hash64 Digest.initial512 message
  | sha512of224 => (Digest.hash64 (Digest.initialNamed "SHA-512/224") message).take 28
  | sha512of256 => (Digest.hash64 (Digest.initialNamed "SHA-512/256") message).take 32

/-- The two lower case hexadecimal digits of a byte. -/
def hexByte (b : UInt8) : List Char :=
  [Nat.digitChar (b.toNat / 16), Nat.digitChar (b.toNat % 16)]

/-- The digest in lower case hexadecimal. -/
def hexDigest (algorithm : HashAlgorithm) (message : List UInt8) : String :=
  String.ofList ((algorithm.digest message).flatMap hexByte)

end HashAlgorithm

end CsvSchema
