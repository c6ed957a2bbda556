import CsvSchema.Proofs.Utf8
import CsvSchema.Run.OperandValue

/-!
# Percent decoding

Decoding leaves a text without percent signs as it is, unless the encoding has one byte for each
character and the text goes beyond ASCII: the bytes of the text are those of UTF-8 all the same.
What decodes as ASCII decodes to the same text in every encoding.  Both is stated in
`uriDecode_leaves_text`.
-/

namespace CsvSchema

namespace Uri

open Text

/-- The encoding that a name stands for.  The name may have blanks around it and any case. -/
def Encoding.named? (name : String) : Option Encoding :=
  ofUpperName? (String.ofList ((trimmed name).toList.map Char.toUpper))

/-- Bytes without a percent sign are decoded already. -/
theorem percentDecode_of_forall_ne {bytes : List UInt8} (h : ∀ b ∈ bytes, b ≠ 0x25) :
    percentDecode bytes = bytes := by
  fun_induction percentDecode bytes with
  | case1 b first second rest hb => simp_all
  | case2 b first second rest hb => simp_all
  | case3 b first second rest hb ih => rw [ih fun c hc => h c (List.mem_cons_of_mem b hc)]
  | case4 bytes => rfl

/-- The byte of the percent sign is in no other character. -/
theorem eq_percent_of_mem_charBytes {c : Char} (h : 0x25 ∈ charBytes c) : c = '%' := by
  have hascii : c.toNat < 128 :=
    Nat.lt_of_not_le fun hbeyond => absurd (le_of_mem_charBytes hbeyond _ h) (by decide)
  rw [charBytes_of_ascii hascii, List.mem_singleton] at h
  have hcode : 0x25 = c.toNat % 256 := congrArg UInt8.toNat h
  refine Char.toNat_inj.1 ?_
  change c.toNat = 0x25
  omega

theorem percentBytes_of_not_mem {s : String} (h : '%' ∉ s.toList) :
    percentBytes s = bytesOf s := by
  refine percentDecode_of_forall_ne ?_
  rw [bytesOf_eq]
  rintro b hb rfl
  obtain ⟨c, hc, hpercent⟩ := List.mem_flatMap.1 hb
  exact h (eq_percent_of_mem_charBytes hpercent ▸ hc)

namespace Encoding

theorem toList_bytewise (bytes : List UInt8) :
    (bytewise bytes).toList = bytes.map fun b => Char.ofNat b.toNat := by
  rw [bytewise, String.toList_ofList]

/-- Read byte by byte, the bytes of a text are the text exactly if it is ASCII. -/
theorem bytewise_bytesOf_eq_iff {s : String} : bytewise (bytesOf s) = s ↔ IsAscii s := by
  rw [IsAscii, ← String.toList_inj, toList_bytewise, bytesOf_eq]
  constructor
  · intro h
    have hlength := congrArg List.length h
    rw [List.length_map] at hlength
    exact forall_lt_of_length_flatMap_charBytes hlength
  · intro h
    generalize s.toList = cs at h
    induction cs with
    | nil => rfl
    | cons c rest ih =>
        obtain ⟨hc, hrest⟩ := List.forall_mem_cons.1 h
        have hcode : Char.ofNat (c.toNat % 256) = c := by
          rw [Nat.mod_eq_of_lt (by omega), Char.ofNat_toNat]
        rw [List.flatMap_cons, List.map_append, charBytes_of_ascii hc, ih hrest]
        exact congrArg (· :: rest) hcode

/-- Bytes of ASCII characters mean the same in UTF-8 as byte by byte. -/
theorem text?_of_forall_lt {bytes : List UInt8} (h : ∀ b ∈ bytes, b < 0x80) :
    Text.text? bytes = some (bytewise bytes) := by
  have hbytes : (bytes.map fun b => Char.ofNat b.toNat).flatMap charBytes = bytes := by
    induction bytes with
    | nil => rfl
    | cons b rest ih =>
        obtain ⟨hb, hrest⟩ := List.forall_mem_cons.1 h
        rw [List.map_cons, List.flatMap_cons, charBytes_ofNat hb, ih hrest]
        rfl
  have hdecoded := text?_flatMap_charBytes (bytes.map fun b => Char.ofNat b.toNat)
  rwa [hbytes] at hdecoded

/-- What an encoding makes of the bytes of a text is the text, unless every byte counts as a
character and the text goes beyond ASCII. -/
theorem eq_iff_of_text?_bytesOf {encoding : Encoding} {s t : String}
    (h : encoding.text? (bytesOf s) = some t) : t = s ↔ (encoding = .latin1 → IsAscii s) := by
  cases encoding with
  | utf8 =>
      have hself : Text.text? (bytesOf s) = some s := by
        rw [bytesOf_eq, text?_flatMap_charBytes, String.ofList_toList]
      exact iff_of_true (Option.some.inj (h.symm.trans hself)) (by simp)
  | latin1 =>
      obtain rfl : bytewise (bytesOf s) = t := Option.some.inj h
      simp only [bytewise_bytesOf_eq_iff, forall_const]
  | ascii =>
      simp only [text?, List.all_eq_true, decide_eq_true_eq, Option.ite_none_right_eq_some,
        Option.some.injEq] at h
      obtain ⟨hbytes, rfl⟩ := h
      exact iff_of_true (bytewise_bytesOf_eq_iff.2 (isAscii_of_forall_mem_bytesOf hbytes)) (by simp)

/-- What is decoded as ASCII is decoded to the same text in every encoding. -/
theorem text?_of_ascii {bytes : List UInt8} {s : String} (h : ascii.text? bytes = some s)
    (encoding : Encoding) : encoding.text? bytes = some s := by
  have hascii := h
  simp only [text?, List.all_eq_true, decide_eq_true_eq, Option.ite_none_right_eq_some,
    Option.some.injEq] at hascii
  obtain ⟨hbytes, rfl⟩ := hascii
  cases encoding with
  | utf8 => exact text?_of_forall_lt hbytes
  | latin1 => rfl
  | ascii => exact h

end Encoding

end Uri

open Uri

/-- A value is decoded to what its encoding makes of its bytes. -/
theorem uriDecode_eq_ok_iff {value name text : String} :
    uriDecode value name = .ok text ↔
      ∃ encoding, Encoding.named? name = some encoding ∧
        encoding.text? (percentBytes value) = some text := by
  rw [uriDecode, ← Encoding.named?]
  cases Encoding.named? name with
  | none => simp
  | some encoding =>
      cases htext : encoding.text? (percentBytes value) with
      | none => simp [htext]
      | some decoded => simp [htext]

/-- If a value without percent signs is decoded, in the encoding with a name or else in UTF-8, the
result is the value itself, unless the encoding is ISO-8859-1 and the value goes beyond ASCII; then
it is another text.  If any value is decoded as ASCII, every encoding decodes it to the same
text. -/
theorem uriDecode_leaves_text (value : String) :
    ('%' ∉ value.toList → ∀ (name : Option String) (text : String),
        uriDecode value (name.getD Encoding.utf8.name) = .ok text →
        (text = value ↔ (name.bind Encoding.named? = some .latin1 → Text.IsAscii value))) ∧
      ∀ ascii text, Encoding.named? ascii = some .ascii → uriDecode value ascii = .ok text →
        ∀ name encoding, Encoding.named? name = some encoding →
          uriDecode value name = .ok text := by
  constructor
  · intro hpercent name text hdecode
    obtain ⟨encoding, hencoding, htext⟩ := uriDecode_eq_ok_iff.1 hdecode
    rw [percentBytes_of_not_mem hpercent] at htext
    rw [Encoding.eq_iff_of_text?_bytesOf htext]
    cases name with
    | none =>
        -- Without a name the encoding is UTF-8, so neither side asks for anything.
        obtain rfl : Encoding.utf8 = encoding := by
          rw [← Option.some.injEq, ← hencoding]
          decide +kernel
        simp
    | some name =>
        rw [Option.getD_some] at hencoding
        rw [Option.bind_some, hencoding, Option.some.injEq]
  · intro ascii text hascii hdecode name encoding hname
    obtain ⟨found, hfound, htext⟩ := uriDecode_eq_ok_iff.1 hdecode
    obtain rfl : Encoding.ascii = found := Option.some.inj (hascii.symm.trans hfound)
    exact uriDecode_eq_ok_iff.2 ⟨encoding, hname, Encoding.text?_of_ascii htext encoding⟩

/-- A text with characters of two, three and four bytes is left alone by UTF-8, and what is escaped
in ASCII is the same in ISO-8859-1, whatever the spellings of the names. -/
theorem uriDecode_leaves_text_of_long_characters :
    let value := "café € 😀"
    '%' ∉ value.toList ∧ uriDecode value " utf8" = .ok value ∧
      (∀ text, uriDecode value " utf8" = .ok text → text = value) ∧
      Encoding.named? "us-Ascii " = some .ascii ∧ uriDecode "a%2Fb" "us-Ascii " = .ok "a/b" ∧
      uriDecode "a%2Fb" "latin1" = .ok "a/b" := by
  intro value
  have hpercent : '%' ∉ value.toList := by decide
  have hdecode : uriDecode value " utf8" = .ok value :=
    uriDecode_eq_ok_iff.2 ⟨.utf8, by decide +kernel, by decide +kernel⟩
  have hutf8 : (some " utf8").bind Encoding.named? = some .latin1 → Text.IsAscii value :=
    fun h => absurd h (by decide +kernel)
  have hascii : Encoding.named? "us-Ascii " = some .ascii := by decide +kernel
  have hlatin1 : Encoding.named? "latin1" = some .latin1 := by decide +kernel
  have hescaped : uriDecode "a%2Fb" "us-Ascii " = .ok "a/b" :=
    uriDecode_eq_ok_iff.2 ⟨.ascii, hascii, by decide +kernel⟩
  exact ⟨hpercent, hdecode, fun text htext =>
    ((uriDecode_leaves_text value).1 hpercent (some " utf8") text htext).2 hutf8, hascii, hescaped,
    (uriDecode_leaves_text "a%2Fb").2 _ _ hascii hescaped "latin1" .latin1 hlatin1⟩

/-- Without any percent sign, `é` is decoded to the two characters that its bytes are in
ISO-8859-1. -/
theorem uriDecode_latin1_ne :
    '%' ∉ "é".toList ∧ uriDecode "é" "ISO-8859-1" = .ok "Ã©" ∧ "Ã©" ≠ "é" :=
  ⟨by decide, uriDecode_eq_ok_iff.2 ⟨.latin1, by decide +kernel, by decide +kernel⟩, by decide⟩

end CsvSchema
