import Mathlib.Data.List.Basic
import CsvSchema.Text.Utf8

/-!
# The bytes of texts

The bytes of a text are those of its characters, one after the other.  An ASCII character is one
byte, and no byte of any other character is an ASCII character, so a text with as many bytes as
characters is ASCII.
-/

namespace CsvSchema.Text

/-- The bytes of a character. -/
abbrev charBytes (c : Char) : List UInt8 := String.utf8EncodeChar c

/-- What is collected so far, and then the rest of the array. -/
theorem toList_loop (bytes : ByteArray) (i : Nat) (collected : List UInt8) :
    ByteArray.toList.loop bytes i collected = collected.reverse ++ bytes.data.toList.drop i := by
  have hsize : bytes.data.toList.length = bytes.size := rfl
  induction hleft : bytes.size - i generalizing i collected with
  | zero =>
      rw [ByteArray.toList.loop, if_neg (by omega), List.drop_of_length_le (by omega),
        List.append_nil]
  | succ left ih =>
      have hi : i < bytes.size := by omega
      have hbyte : bytes.get! i = bytes.data.toList[i] := by
        simp [ByteArray.get!, hi]
      rw [ByteArray.toList.loop, if_pos hi, ih (i + 1) _ (by omega),
        List.drop_eq_getElem_cons (i := i) hi, List.reverse_cons, List.append_assoc, hbyte]
      rfl

/-- The bytes of a text are those of its characters. -/
theorem bytesOf_eq (s : String) : bytesOf s = s.toList.flatMap charBytes := by
  obtain ⟨cs, rfl⟩ : ∃ cs, s = String.ofList cs := ⟨s.toList, String.ofList_toList.symm⟩
  rw [bytesOf, String.toUTF8, String.toByteArray_ofList, ByteArray.toList, toList_loop,
    String.toList_ofList]
  simp [List.utf8Encode]

theorem text?_flatMap_charBytes (cs : List Char) :
    text? (cs.flatMap charBytes) = some (String.ofList cs) := by
  have hbytes : (⟨(cs.flatMap charBytes).toArray⟩ : ByteArray) = cs.utf8Encode := by
    apply ByteArray.ext
    simp [List.utf8Encode]
  rw [text?, hbytes, String.fromUTF8?, dif_pos ByteArray.isValidUTF8_utf8Encode]
  exact congrArg some (String.toByteArray_inj.1 String.toByteArray_ofList.symm)

theorem charBytes_of_ascii {c : Char} (h : c.toNat < 128) : charBytes c = [c.toUInt8] := by
  have hval : c.val.toNat ≤ 127 := Nat.le_of_lt_succ h
  simp only [charBytes, String.utf8EncodeChar, hval, if_true]
  rfl

theorem charBytes_ofNat {b : UInt8} (h : b < 0x80) : charBytes (Char.ofNat b.toNat) = [b] := by
  have hb : b.toNat < 128 := UInt8.lt_iff_toNat_lt.1 h
  have hvalid : b.toNat.isValidChar := .inl (by omega)
  have hcode : (Char.ofNat b.toNat).toNat = b.toNat := by
    rw [Char.ofNat, dif_pos hvalid]
    rfl
  rw [charBytes_of_ascii (by omega)]
  refine congrArg (fun b => [b]) (UInt8.toNat_inj.1 ?_)
  change (Char.ofNat b.toNat).toNat % 256 = b.toNat
  omega

theorem charBytes_ne_nil (c : Char) : charBytes c ≠ [] := by
  unfold charBytes String.utf8EncodeChar
  simp only
  split
  · simp
  · split
    · simp
    · split <;> simp

/-- No byte of a character beyond ASCII is one of an ASCII character. -/
theorem le_of_mem_charBytes {c : Char} (h : 128 ≤ c.toNat) : ∀ b ∈ charBytes c, 128 ≤ b.toNat := by
  have hval : ¬c.val.toNat ≤ 127 := Nat.not_le_of_lt h
  unfold charBytes String.utf8EncodeChar
  simp only [hval, if_false]
  split
  · simp
    omega
  · split
    · simp
      omega
    · simp
      omega

/-- A text does not start with a character unless its bytes start with those of the character. -/
theorem eq_of_charBytes_append {c d : Char} {rest rest' : List UInt8}
    (h : charBytes c ++ rest = charBytes d ++ rest') : c = d := by
  have hdecode : ∀ (c : Char) (rest : List UInt8),
      (charBytes c ++ rest).toByteArray.utf8DecodeChar? 0 = some c := by
    intro c rest
    rw [List.toByteArray_append]
    exact ByteArray.utf8DecodeChar?_utf8EncodeChar_append
  have hc := hdecode c rest
  rw [h, hdecode d rest'] at hc
  exact (Option.some.inj hc).symm

/-- A text has no character beyond ASCII. -/
def IsAscii (s : String) : Prop := ∀ c ∈ s.toList, c.toNat < 128

instance (s : String) : Decidable (IsAscii s) :=
  inferInstanceAs (Decidable (∀ c ∈ s.toList, c.toNat < 128))

/-- A character beyond ASCII has several bytes. -/
theorem length_charBytes_eq_one_iff {c : Char} : (charBytes c).length = 1 ↔ c.toNat < 128 := by
  rw [charBytes, String.length_utf8EncodeChar, Char.utf8Size_eq_one_iff]
  exact Nat.lt_succ_iff.symm

theorem length_le_length_flatMap_charBytes (s : List Char) :
    s.length ≤ (s.flatMap charBytes).length := by
  induction s with
  | nil => exact Nat.le_refl 0
  | cons c rest ih =>
      have hc : 0 < (charBytes c).length := List.length_pos_iff.2 (charBytes_ne_nil c)
      rw [List.flatMap_cons, List.length_append, List.length_cons]
      omega

/-- A text with as many bytes as characters is ASCII. -/
theorem forall_lt_of_length_flatMap_charBytes {s : List Char}
    (h : (s.flatMap charBytes).length = s.length) : ∀ c ∈ s, c.toNat < 128 := by
  induction s with
  | nil => simp
  | cons c rest ih =>
      have hc : 0 < (charBytes c).length := List.length_pos_iff.2 (charBytes_ne_nil c)
      have hrest := length_le_length_flatMap_charBytes rest
      rw [List.flatMap_cons, List.length_append, List.length_cons] at h
      exact List.forall_mem_cons.2 ⟨length_charBytes_eq_one_iff.1 (by omega), ih (by omega)⟩

theorem isAscii_of_forall_mem_bytesOf {s : String} (h : ∀ b ∈ bytesOf s, b < 0x80) : IsAscii s := by
  intro c hc
  refine Nat.lt_of_not_le fun hbeyond => ?_
  obtain ⟨b, hb⟩ := List.exists_mem_of_ne_nil _ (charBytes_ne_nil c)
  have hsmall : b < 0x80 := h b (bytesOf_eq s ▸ List.mem_flatMap.2 ⟨c, hc, hb⟩)
  exact absurd (UInt8.lt_iff_toNat_lt.1 hsmall) (Nat.not_lt.2 (le_of_mem_charBytes hbeyond b hb))

end CsvSchema.Text
