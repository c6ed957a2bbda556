import CsvSchema.Proofs.Csv.Writing
import CsvSchema.Proofs.Utf8

/-!
# Reading CSV as bytes

What a reader looks for is ASCII, and no other character has an ASCII character among its bytes.
So a file is cut at the same places whether its characters are read or their bytes, and every field
that is cut out is text, `readBytes_bytesOf`.
-/

namespace CsvSchema.Csv

open Text

/-- The place inside a field to which an ordinary symbol leads. -/
def Place.within : Place → Place
  | .quoted => .quoted
  | _ => .plain

section Symbols

variable {σ : Type}

theorem addSymbols_append (symbols more : List σ) (records : List (List (List σ))) :
    addSymbols (symbols ++ more) records = addSymbols symbols (addSymbols more records) :=
  List.foldr_append

/-- Symbols come to stand in a record of their own where there is no record yet. -/
theorem addSymbols_nil {symbols : List σ} (h : symbols ≠ []) :
    addSymbols symbols [] = [[symbols]] := by
  rw [← List.dropLast_concat_getLast h, addSymbols_append]
  exact addSymbols_cons _ [symbols.getLast h] [] []

/-- They come to stand in a field of their own where a record has no field yet. -/
theorem addSymbols_nil_cons {symbols : List σ} (h : symbols ≠ [])
    (records : List (List (List σ))) :
    addSymbols symbols ([] :: records) = [symbols] :: records := by
  rw [← List.dropLast_concat_getLast h, addSymbols_append]
  exact addSymbols_cons _ [symbols.getLast h] [] records

variable [BEq σ] {d : Dialect σ}

/-- A symbol that a reader does not look for. -/
structure IsOrdinary (d : Dialect σ) (c : σ) : Prop where
  separator : (c == d.separator) = false
  quote : (d.quote == some c) = false
  line : d.endsLine c = false

theorem move_of_isOrdinary {c : σ} (h : IsOrdinary d c) (place : Place) :
    d.move place c = .keep place.within := by
  cases place <;>
    simp [Dialect.move, Dialect.openingMove, Dialect.plainMove, Place.within, h.separator, h.quote,
      h.line]

theorem recordsFrom_cons_of_isOrdinary {c : σ} (h : IsOrdinary d c) (place : Place)
    (rest : List σ) :
    recordsFrom d place (c :: rest) = addSymbol c (recordsFrom d place.within rest) := by
  cases place <;> simp [recordsFrom, move_of_isOrdinary h]

/-- Ordinary symbols are kept one after the other. -/
theorem recordsFrom_append_of_isOrdinary {symbols : List σ} (hne : symbols ≠ [])
    (h : ∀ c ∈ symbols, IsOrdinary d c) (place : Place) (rest : List σ) :
    recordsFrom d place (symbols ++ rest) =
      addSymbols symbols (recordsFrom d place.within rest) := by
  induction symbols generalizing place with
  | nil => exact absurd rfl hne
  | cons c symbols ih =>
      obtain ⟨hc, hsymbols⟩ := List.forall_mem_cons.1 h
      rw [List.cons_append, recordsFrom_cons_of_isOrdinary hc, addSymbols, List.foldr_cons,
        ← addSymbols]
      cases symbols with
      | nil => rfl
      | cons next symbols =>
          rw [ih (List.cons_ne_nil _ _) hsymbols]
          cases place <;> rfl

end Symbols

/-- Records of characters as records of bytes. -/
def bytesOfRecords (records : List (List (List Char))) : List (List (List UInt8)) :=
  records.map (·.map (·.flatMap charBytes))

theorem bytesOfRecords_addSymbol (c : Char) (records : List (List (List Char))) :
    bytesOfRecords (addSymbol c records) = addSymbols (charBytes c) (bytesOfRecords records) := by
  have hc := charBytes_ne_nil c
  rcases records with _ | ⟨_ | ⟨field, fields⟩, records⟩
  · simp [addSymbol, bytesOfRecords, addSymbols_nil hc]
  · simp [addSymbol, bytesOfRecords, addSymbols_nil_cons hc]
  · simp [addSymbol, bytesOfRecords, addSymbols_cons]

theorem bytesOfRecords_addField (records : List (List (List Char))) :
    bytesOfRecords (addField records) = addField (bytesOfRecords records) := by
  cases records <;> rfl

section Dialects

/-- ASCII characters differ when their bytes do. -/
theorem beq_toUInt8 {c d : Char} (hc : c.toNat < 128) (hd : d.toNat < 128) :
    (c.toUInt8 == d.toUInt8) = (c == d) := by
  rw [Bool.eq_iff_iff, beq_iff_eq, beq_iff_eq]
  refine ⟨fun h => Char.toNat_inj.1 ?_, fun h => h ▸ rfl⟩
  have hbytes : c.toNat % 256 = d.toNat % 256 := congrArg UInt8.toNat h
  omega

variable {settings : FileSettings} (hseparator : IsSeparator settings.separator)
include hseparator

/-- The byte of an ASCII character is treated like the character. -/
theorem move_toUInt8 (place : Place) {c : Char} (hc : c.toNat < 128) :
    (byteDialect settings).move place c.toUInt8 = (charDialect settings).move place c := by
  -- All that a dialect compares a symbol with is ASCII.
  have hmark : (c.toUInt8 == settings.separator.toUInt8) = (c == settings.separator) :=
    beq_toUInt8 hc hseparator.1
  have hreturn : (c.toUInt8 == 0x0D) = (c == '\r') :=
    beq_toUInt8 hc (show '\r'.toNat < 128 by decide)
  have hfeed : (c.toUInt8 == 0x0A) = (c == '\n') :=
    beq_toUInt8 hc (show '\n'.toNat < 128 by decide)
  have hquote : ((byteDialect settings).quote == some c.toUInt8) =
      ((charDialect settings).quote == some c) := by
    have hbeq : (('"'.toUInt8 : UInt8) == c.toUInt8) = ('"' == c) := beq_toUInt8 (by decide) hc
    simp only [byteDialect, charDialect]
    split
    · exact hbeq
    · rfl
  have hends : (byteDialect settings).endsLine c.toUInt8 = (charDialect settings).endsLine c := by
    simp only [Dialect.endsLine, byteDialect, charDialect, hreturn, hfeed]
  have hplain : (byteDialect settings).plainMove c.toUInt8 =
      (charDialect settings).plainMove c := by
    simp only [Dialect.plainMove, hends]
    rw [show (byteDialect settings).separator = settings.separator.toUInt8 from rfl, hmark]
    rfl
  cases place <;> simp only [Dialect.move, Dialect.openingMove, hends, hquote, hplain]

theorem isOrdinary_char {c : Char} (hc : 128 ≤ c.toNat) : IsOrdinary (charDialect settings) c := by
  have hne : ∀ d : Char, d.toNat < 128 → (c == d) = false := by
    intro d hd
    rw [beq_eq_false_iff_ne]
    rintro rfl
    omega
  have hquote : ('"' == c) = false := by
    rw [BEq.comm]
    exact hne _ (by decide)
  refine ⟨hne _ hseparator.1, ?_, ?_⟩
  · simp only [charDialect]
    split
    · exact hquote
    · rfl
  · simp only [Dialect.endsLine, charDialect, hne _ (show '\r'.toNat < 128 by decide),
      hne _ (show '\n'.toNat < 128 by decide), Bool.or_self]

theorem isOrdinary_byte {b : UInt8} (hb : 128 ≤ b.toNat) : IsOrdinary (byteDialect settings) b := by
  have hne : ∀ d : UInt8, d.toNat < 128 → (b == d) = false := by
    intro d hd
    rw [beq_eq_false_iff_ne]
    rintro rfl
    omega
  have hmark : settings.separator.toUInt8.toNat < 128 := by
    have := hseparator.1
    change settings.separator.toNat % 256 < 128
    omega
  have hquote : ((0x22 : UInt8) == b) = false := by
    rw [BEq.comm]
    exact hne _ (by decide)
  refine ⟨hne _ hmark, ?_, ?_⟩
  · simp only [byteDialect]
    split
    · exact hquote
    · rfl
  · simp only [Dialect.endsLine, byteDialect, hne 0x0D (by decide), hne 0x0A (by decide),
      Bool.or_self]

/-- Bytes are cut at the same places as the characters that they stand for. -/
theorem recordsFrom_flatMap_charBytes (place : Place) (s : List Char) :
    recordsFrom (byteDialect settings) place (s.flatMap charBytes) =
      bytesOfRecords (recordsFrom (charDialect settings) place s) := by
  induction s generalizing place with
  | nil => cases place <;> rfl
  | cons c s ih =>
      rw [List.flatMap_cons]
      by_cases hc : c.toNat < 128
      case pos =>
        -- The character is one byte, with which the same is done.
        have hbytes : charBytes c = [c.toUInt8] := charBytes_of_ascii hc
        rw [hbytes, List.singleton_append]
        simp only [recordsFrom, move_toUInt8 hseparator place hc]
        cases (charDialect settings).move place c with
        | skip => exact ih .lineStart
        | endField => simp only [ih, bytesOfRecords_addField]
        | endRecord => simp only [ih]; rfl
        | keep next => simp only [ih, bytesOfRecords_addSymbol, hbytes]; rfl
        | drop next => exact ih next
      case neg =>
        -- Neither the character nor any of its bytes is looked for.
        have hchar : IsOrdinary (charDialect settings) c :=
          isOrdinary_char hseparator (Nat.le_of_not_lt hc)
        have hbytes : ∀ b ∈ charBytes c, IsOrdinary (byteDialect settings) b := fun b hb =>
          isOrdinary_byte hseparator (le_of_mem_charBytes (Nat.le_of_not_lt hc) b hb)
        rw [recordsFrom_append_of_isOrdinary (charBytes_ne_nil c) hbytes,
          recordsFrom_cons_of_isOrdinary hchar, bytesOfRecords_addSymbol, ih]

end Dialects

/-- A byte order mark is dropped from the bytes of a text where it is dropped from the text. -/
theorem dropMark_flatMap_charBytes (s : List Char) :
    dropMark [0xEF, 0xBB, 0xBF] (s.flatMap charBytes) =
      (dropMark ['\uFEFF'] s).flatMap charBytes := by
  have hmark : charBytes '\uFEFF' = [0xEF, 0xBB, 0xBF] := by decide
  by_cases hs : ['\uFEFF'] <+: s
  case pos =>
    obtain ⟨rest, rfl⟩ := hs
    have hbytes : dropStart? [0xEF, 0xBB, 0xBF] ((['\uFEFF'] ++ rest).flatMap charBytes) =
        some (rest.flatMap charBytes) := by
      rw [dropStart?_eq_some_iff, List.flatMap_append, List.flatMap_singleton, hmark]
    have hchars : dropStart? ['\uFEFF'] (['\uFEFF'] ++ rest) = some rest :=
      dropStart?_eq_some_iff.2 rfl
    rw [dropMark, dropMark, hbytes, hchars, Option.getD_some, Option.getD_some]
  case neg =>
    -- Bytes that begin like a mark are those of a mark: no code is the beginning of another.
    have hbytes : ¬[0xEF, 0xBB, 0xBF] <+: s.flatMap charBytes := by
      rintro ⟨rest, hrest⟩
      cases s with
      | nil => cases hrest
      | cons c s =>
          rw [← hmark, List.flatMap_cons] at hrest
          obtain rfl := eq_of_charBytes_append hrest
          exact hs ⟨s, rfl⟩
    rw [dropMark_of_absent hs, dropMark_of_absent hbytes]

/-- The bytes of a text hold the records of the text, and all of them are text. -/
theorem readBytes_bytesOf {settings : FileSettings} (hseparator : IsSeparator settings.separator)
    (text : String) : readBytes settings (bytesOf text) = (readText settings text).map some := by
  have hrecord : ∀ record : List (List Char),
      (record.map (·.flatMap charBytes)).mapM text? = some (record.map String.ofList) := by
    intro record
    rw [List.mapM_map]
    induction record with
    | nil => rfl
    | cons field fields ih =>
        rw [List.mapM_cons, ih, Function.comp_apply, text?_flatMap_charBytes]
        rfl
  rw [readBytes, readText, bytesOf_eq, dropMark_flatMap_charBytes,
    recordsFrom_flatMap_charBytes hseparator, bytesOfRecords, List.map_map, List.map_map]
  exact List.map_congr_left fun record _ => hrecord record

end CsvSchema.Csv
