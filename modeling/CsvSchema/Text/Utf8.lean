/-!
# UTF-8 text from bytes

`text?` refuses bytes that are not well-formed UTF-8.  `lossyText` never refuses: every longest
start of a sequence that cannot be completed becomes one replacement character.
-/

namespace CsvSchema.Text

/-- The text that well-formed bytes encode, or none. -/
def text? (bytes : List UInt8) : Option String :=
  String.fromUTF8? ⟨bytes.toArray⟩

/-- The bytes of a text. -/
def bytesOf (s : String) : List UInt8 := s.toUTF8.toList

/-- A character whose first bytes are read: how many bytes are owed, between which
bounds the next one must be, and the value of the bits so far. -/
structure OpenChar where
  owed : Nat
  low : UInt8
  high : UInt8
  bits : Nat

/-- What a byte between characters starts. -/
inductive Lead where
  | whole (c : Char)
  | opens (char : OpenChar)
  | stray

/-- The role of a byte between characters.  The bounds for the second byte leave
out overlong forms, surrogates and values above 10FFFF. -/
def Lead.ofByte (b : UInt8) : Lead :=
  if b ≤ 0x7F then .whole (Char.ofNat b.toNat)
  else if 0xC2 ≤ b && b ≤ 0xDF then .opens ⟨1, 0x80, 0xBF, b.toNat % 0x20⟩
  else if b == 0xE0 then .opens ⟨2, 0xA0, 0xBF, 0⟩
  else if b == 0xED then .opens ⟨2, 0x80, 0x9F, 0xD⟩
  else if 0xE1 ≤ b && b ≤ 0xEF then .opens ⟨2, 0x80, 0xBF, b.toNat % 0x10⟩
  else if b == 0xF0 then .opens ⟨3, 0x90, 0xBF, 0⟩
  else if 0xF1 ≤ b && b ≤ 0xF3 then .opens ⟨3, 0x80, 0xBF, b.toNat % 0x08⟩
  else if b == 0xF4 then .opens ⟨3, 0x80, 0x8F, 4⟩
  else .stray

/-- The character that stands for bytes without one. -/
def replacementChar : Char := '\uFFFD'

/-- The text of the rest of the bytes, inside an open character if there is one. -/
def lossyFrom : Option OpenChar → List UInt8 → List Char
  | none, [] => []
  | some _, [] => [replacementChar]
  | none, b :: rest =>
      match Lead.ofByte b with
      | .whole c => c :: lossyFrom none rest
      | .opens char => lossyFrom (some char) rest
      | .stray => replacementChar :: lossyFrom none rest
  | some char, b :: rest =>
      if char.low ≤ b && b ≤ char.high then
        let bits := char.bits * 0x40 + b.toNat % 0x40
        if char.owed ≤ 1 then Char.ofNat bits :: lossyFrom none rest
        else lossyFrom (some ⟨char.owed - 1, 0x80, 0xBF, bits⟩) rest
      else
        replacementChar ::
          match Lead.ofByte b with
          | .whole c => c :: lossyFrom none rest
          | .opens char => lossyFrom (some char) rest
          | .stray => replacementChar :: lossyFrom none rest

/-- The text of bytes, with replacement characters where they are malformed. -/
def lossyText (bytes : List UInt8) : String := String.ofList (lossyFrom none bytes)

end CsvSchema.Text
