import CsvSchema.Report.Json
import CsvSchema.Proofs.Json.Records
import CsvSchema.Proofs.Report.Calls

/-!
# Reports that are read back

The groups of a report are written in the order of their keys and come back in that order, and so
does everything in them.  Whatever was added to a report, it comes back from its JSON text,
`Report.read_print_ofCalls`.
-/

namespace CsvSchema

open Json (Value StringUnit)

namespace OrderedMap

variable {κ β : Type} [KeyOrder κ]

/-- A key behind all others is added at the end. -/
theorem alterEntry_of_forall_before {key : κ} {initial : β} {change : β → β}
    {entries : List (κ × β)} (h : ∀ e ∈ entries, KeyOrder.before e.1 key = true) :
    alterEntry key initial change entries = entries ++ [(key, change initial)] := by
  induction entries with
  | nil => rfl
  | cons e rest ih =>
      obtain ⟨he, hrest⟩ := List.forall_mem_cons.1 h
      have hafter : KeyOrder.before key e.1 = false := KeyOrder.not_before_of_before he
      rw [alterEntry, if_neg (by simp [hafter]), if_pos he, ih hrest, List.cons_append]

/-- Entries in order are added one behind the other. -/
theorem entries_foldl_insert (rest : List (κ × β)) (map : OrderedMap κ β)
    (h : KeysIncrease (map.entries ++ rest)) :
    (rest.foldl (fun map entry => map.insert entry.1 entry.2) map).entries =
      map.entries ++ rest := by
  induction rest generalizing map with
  | nil => exact (List.append_nil _).symm
  | cons e rest ih =>
      have hbefore : ∀ d ∈ map.entries, KeyOrder.before d.1 e.1 = true := fun d hd =>
        (List.pairwise_append.1 h).2.2 d hd e List.mem_cons_self
      have hinsert : (map.insert e.1 e.2).entries = map.entries ++ [e] :=
        alterEntry_of_forall_before hbefore
      rw [List.foldl_cons, ih, hinsert, List.append_assoc, List.singleton_append]
      rw [hinsert, List.append_assoc, List.singleton_append]
      exact h

/-- A map can be made from its entries. -/
theorem ofList_entries (map : OrderedMap κ β) : ofList map.entries = map := by
  have hentries : (ofList map.entries).entries = map.entries :=
    entries_foldl_insert map.entries .empty map.increasing
  obtain ⟨entries, hincreasing⟩ := map
  generalize ofList entries = copy at hentries
  cases copy
  cases hentries
  rfl

end OrderedMap

section Maps

variable {κ β : Type} [KeyOrder κ] {name : κ → String} {toJson : β → Value}
  {map : OrderedMap κ β}

theorem plain_mapJson (h : ∀ e ∈ map.entries, (toJson e.2).Plain) :
    (mapJson name toJson map).Plain := by
  have hmembers : (map.entries.map fun e => Json.member (name e.1) (toJson e.2)) =
      (map.entries.map fun e => (name e.1, toJson e.2)).map fun m => Json.member m.1 m.2 := by
    rw [List.map_map]
    rfl
  rw [mapJson, hmembers]
  exact .object (List.forall_mem_map.2 h)

/-- A map comes back when its keys and its values do. -/
theorem readMap?_mapJson {key : List StringUnit → Option κ} {value : Value → Option β}
    (hkey : ∀ e ∈ map.entries, key ((Json.unitsOf (name e.1)).map StringUnit.reread) = some e.1)
    (hvalue : ∀ e ∈ map.entries, value (toJson e.2).reread = some e.2) :
    readMap? key value (mapJson name toJson map).reread = some map := by
  have hentry : ∀ e ∈ map.entries, readMember? key value
      ((Json.unitsOf (name e.1)).map StringUnit.reread, (toJson e.2).reread) = some e := by
    intro e he
    rw [readMember?, hkey e he, hvalue e he]
  have hentries := Json.mapM_map_eq_some hentry
  rw [mapJson, Value.reread, Json.rereadMembers_eq, readMap?, List.map_map]
  refine (congrArg (·.map OrderedMap.ofList) hentries).trans ?_
  rw [List.map_id', Option.map_some, OrderedMap.ofList_entries]

end Maps

section Keys

/-- The names of columns come back. -/
theorem nameText?_reread (s : String) :
    nameText? ((Json.unitsOf s).map StringUnit.reread) = some s := by
  rw [nameText?, Json.unitsText?_reread, Json.unitsText?_unitsOf, Option.map_some,
    String.ofList_toList]

theorem Severity.ofName?_reread (severity : Severity) :
    ofName? ((Json.unitsOf severity.text).map StringUnit.reread) = some severity := by
  rw [ofName?, nameText?_reread]
  cases severity <;> rfl

/-- Digits are written as they are, so a row number comes back. -/
theorem rowNumber?_reread {row : Nat} (h : row ≤ Decimal.maxWord64) :
    rowNumber? ((Json.unitsOf (Decimal.natText row)).map StringUnit.reread) = some row := by
  have hplain : ∀ c ∈ Decimal.digits row,
      plainChar? (StringUnit.plain c).reread = some c := by
    intro c hc
    have hdigit : '0' ≤ c ∧ c ≤ '9' := by
      simpa [Decimal.isDigit] using Decimal.isDigit_of_mem_digits c hc
    have hcode : 48 ≤ c.toNat := hdigit.1
    rw [Json.reread_plain_of_le (by omega), plainChar?]
  have hdigits : ((Decimal.digits row).map fun c => (StringUnit.plain c).reread).mapM plainChar? =
      some (Decimal.digits row) := by
    rw [Json.mapM_map_eq_some hplain, List.map_id']
  have hzero : (Decimal.digits row == ['0'] || (Decimal.digits row).head? != some '0') = true := by
    by_cases hhead : (Decimal.digits row).head? = some '0'
    · rw [Decimal.digits_eq_of_head? hhead]
      rfl
    · simp [hhead]
  rw [rowNumber?, Json.unitsOf, Decimal.natText, String.toList_ofList, List.map_map]
  simp only [Function.comp_def, hdigits, Decimal.isDigits_digits, hzero, Bool.and_self, if_true,
    Decimal.readNatural?_digits h]

end Keys

section Values

theorem plain_messagesJson (messages : List String) : (messagesJson messages).Plain :=
  .array (List.forall_mem_map.2 fun message _ => .text message)

theorem itemsOf?_messagesJson (messages : List String) :
    itemsOf? Value.text? (messagesJson messages).reread = some messages := by
  rw [Json.ignoresSpelling_text?.itemsOf?, messagesJson, itemsOf?,
    Json.mapM_map_eq_some fun message _ => Value.text?_ofString message, List.map_id']

namespace FileMessage

theorem toJson_eq (m : FileMessage) : m.toJson = Json.record fieldNames
    [some (.ofString m.severity.text), some (.ofString m.message)] :=
  rfl

theorem plain_toJson (m : FileMessage) : m.toJson.Plain := by
  rw [toJson_eq]
  refine Json.plain_record fun value hvalue => ?_
  simp only [List.mem_cons, Option.some.injEq, List.not_mem_nil, or_false] at hvalue
  rcases hvalue with rfl | rfl
  · exact .text _
  · exact .text _

theorem ofJson?_toJson (m : FileMessage) : ofJson? m.toJson.reread = some m := by
  have hseverity : Severity.ofJson? (Value.ofString m.severity.text).reread = some m.severity :=
    Severity.ofName?_reread m.severity
  have hmessage : (Value.ofString m.message).reread.text? = some m.message := by
    rw [Json.ignoresSpelling_text?, Value.text?_ofString]
  rw [ofJson?, toJson_eq, Json.recordFields?_reread, Json.recordFields?_record (by decide) rfl]
  simp only [Option.map_some, List.map_cons, List.map_nil, hseverity, hmessage]

end FileMessage

end Values

namespace Report

/-- The value of the messages about the file, which is left out when there are none. -/
def fileJson? (report : Report) : Option Value :=
  if report.file.isEmpty then none else some (.array (report.file.map FileMessage.toJson))

theorem toJson_eq (report : Report) : report.toJson = Json.record fieldNames
    [some (mapJson Decimal.natText RowMessages.toJson report.rows), report.fileJson?] := by
  rw [toJson, fileJson?]
  split <;> rfl

theorem plain_rowMessages (row : RowMessages) : row.toJson.Plain :=
  plain_mapJson fun _ _ => plain_mapJson fun _ _ => plain_messagesJson _

theorem plain_toJson (report : Report) : report.toJson.Plain := by
  rw [toJson_eq]
  refine Json.plain_record fun value hvalue => ?_
  simp only [List.mem_cons, Option.some.injEq, List.not_mem_nil, or_false] at hvalue
  rcases hvalue with rfl | hvalue
  · exact plain_mapJson fun e _ => plain_rowMessages e.2
  · rw [fileJson?] at hvalue
    split at hvalue
    · cases hvalue
    · obtain rfl := Option.some.inj hvalue
      exact .array (List.forall_mem_map.2 fun m _ => m.plain_toJson)

theorem rowsOfJson?_mapJson {report : Report} (h : report.RowsFit) :
    rowsOfJson? (mapJson Decimal.natText RowMessages.toJson report.rows).reread =
      some report.rows :=
  readMap?_mapJson (fun e he => rowNumber?_reread (h e he)) fun _ _ =>
    readMap?_mapJson (fun _ _ => nameText?_reread _) fun _ _ =>
      readMap?_mapJson (fun _ _ => Severity.ofName?_reread _) fun _ _ => itemsOf?_messagesJson _

/-- The messages about the file come back, also when there are none and nothing is written. -/
theorem defaulted?_fileJson? (report : Report) :
    Json.defaulted? [] (itemsOf? FileMessage.ofJson?) (report.fileJson?.map Value.reread) =
      some report.file := by
  rw [fileJson?]
  split
  · rename_i hempty
    rw [List.isEmpty_iff.1 hempty]
    rfl
  · rw [Option.map_some, Value.reread, Json.rereadItems_eq, List.map_map, Json.defaulted?,
      itemsOf?, Json.mapM_map_eq_some fun m _ => m.ofJson?_toJson, List.map_id']

/-- A report comes back from its text. -/
theorem read?_print {report : Report} (h : report.RowsFit) : read? report.print = some report := by
  have hvalue : Json.read? report.print = some report.toJson.reread :=
    report.plain_toJson.read?_print Json.Layout.isBlank_indented
  rw [read?, hvalue, Option.bind_some, ofJson?, toJson_eq, Json.recordFields?_reread,
    Json.recordFields?_record (by decide) rfl]
  simp only [Option.map_some, List.map_cons, List.map_nil, rowsOfJson?_mapJson h,
    defaulted?_fileJson?]

/-- Whatever calls a report was made by, it comes back from its text. -/
theorem read_print_ofCalls {calls : List Call} (h : ∀ call ∈ calls, call.RowFits) :
    read? (ofCalls calls).print = some (ofCalls calls) :=
  read?_print (rowsFit_ofCalls h)

/-- Rows whose numbers and whose texts are in different orders, a control character, a character
beyond the first plane, and a message about the file. -/
theorem read_print_of_mixed_calls :
    let calls := [Call.push 10 "b" .error "\x01\"😀", .pushFile .warning "late",
      .push 9 "a" .warning "é\n", .push 10 "b" .error "again"]
    (∀ call ∈ calls, call.RowFits) ∧ (ofCalls calls).rows.keys = [9, 10] ∧
      read? (ofCalls calls).print = some (ofCalls calls) := by
  intro calls
  have hrows : ∀ call ∈ calls, call.RowFits := by
    simp [calls, Call.RowFits, Decimal.maxWord64]
  exact ⟨hrows, by decide, read_print_ofCalls hrows⟩

end Report

end CsvSchema
