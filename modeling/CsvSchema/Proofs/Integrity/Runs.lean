import CsvSchema.Proofs.Outcome
import CsvSchema.Proofs.Reporting
import CsvSchema.Proofs.Storage.Walks
import CsvSchema.Proofs.Integrity.Records

/-!
# Runs under an integrity check

Over a whole run the check compares two sets of entries: those that the values of the records name
and those that are reached from the folder.  What is remembered after some records is what they
have named, `FolderCheck.midway_mapM`; at the end the rest is reported, `FolderCheck.finish_report`.
So a run is valid exactly if every value names an entry that is wanted and every entry that is
wanted is named, `FolderCheck.valid_iff_accepted_and_named`.
-/

namespace CsvSchema

open Memory Stateful

namespace FolderCheck

variable (c : FolderCheck) (storage : MemoryStorage)

/-- Where a run stands after some records: the check remembers what they have named, and for each
bad one there was one error. -/
structure Midway (start : Nat) (values : List String) (session : Session) : Prop where
  line : session.line = start + values.length
  memory : ∃ named, (∀ parts, parts ∈ named ↔
      ∃ value ∈ values, storage.NamesEntry c.root c.rule value parts) ∧
    c.Ready storage named session.memory ∧
    (values ≠ [] → c.Remembers storage named session.memory)
  errors : session.report.count .error =
    (values.filter fun value => ¬storage.Accepts c.root c.rule value).length
  later : ∀ row, session.line < row → session.report.get row c.column .error = []
  current : (session.report.get session.line c.column .error).length ≤ 1

/-- What a report says at the end of a run: one error for each bad record, and after that, at the
last record, one for each entry that nothing names. -/
structure Accounts (values : List String) (last : Nat) (missing : List (List (List Char)))
    (report : Report) : Prop where
  nodup : missing.Nodup
  mem_iff : ∀ names, names ∈ missing ↔ storage.Awaits c.root c.rule names ∧
    ∀ value ∈ values, ¬Names c.root value (Path.nameParts names)
  cell : ∃ own, own.length ≤ 1 ∧ report.get last c.column .error =
    own ++ missing.map fun names => Session.unreferencedText c.column (namesPath names) c.root
  errors : report.count .error =
    (values.filter fun value => ¬storage.Accepts c.root c.rule value).length + missing.length

variable {c storage}

theorem mem_addPath {path : List PathPart} {paths : List (List PathPart)} {other : List PathPart} :
    other ∈ addPath (some path) paths ↔ other = path ∨ other ∈ paths := by
  simp only [addPath]
  split
  · rename_i hmem
    rw [List.contains_iff_mem] at hmem
    constructor
    · exact .inr
    · rintro (rfl | h)
      · exact hmem
      · exact h
  · exact List.mem_cons

/-- One record more. -/
theorem Midway.recorded {start : Nat} {values : List String} {before after : Session}
    {value : String} (h : c.Midway storage start values before)
    (hrecorded : ∀ named, c.Ready storage named before.memory →
      c.Recorded storage value named before after) :
    c.Midway storage start (values ++ [value]) after := by
  obtain ⟨named, hnamed, hready, -⟩ := h.memory
  have hline := h.line
  have hlater := h.later (before.line + 1) (Nat.lt_succ_self _)
  have hlength : before.line + 1 = start + (values ++ [value]).length := by
    rw [List.length_append, List.length_singleton]
    omega
  have hmore : ∀ parts, (∃ value' ∈ values ++ [value],
        storage.NamesEntry c.root c.rule value' parts) ↔
      parts ∈ named ∨ storage.NamesEntry c.root c.rule value parts := by
    intro parts
    rw [hnamed]
    simp only [List.mem_append, List.mem_singleton, or_and_right, exists_or, exists_eq_left]
  cases hrecorded named hready with
  | @good parts memory hnames hmemory =>
      have haccepts : storage.Accepts c.root c.rule value := ⟨parts, hnames⟩
      -- A value names one entry at most, so nothing else is new.
      refine ⟨hlength, ⟨_, fun other => ?_, .inside hmemory, fun _ => hmemory⟩, ?_, ?_, ?_⟩
      · rw [mem_addPath, hmore]
        constructor
        · rintro (rfl | hmem)
          · exact .inr hnames
          · exact .inl hmem
        · rintro (hmem | hother)
          · exact .inr hmem
          · exact .inl (hother.named.eq hnames.named)
      · rw [List.filter_append]
        simpa [haccepts] using h.errors
      · exact fun row hrow => h.later row (Nat.lt_of_succ_lt hrow)
      · simp only [hlater, List.length_nil, Nat.zero_le]
  | @bad memory message hnames hmemory =>
      have hrejects : ¬storage.Accepts c.root c.rule value := fun ⟨parts, hparts⟩ =>
        hnames parts hparts
      -- A rejected value names nothing, so what is remembered stays.
      refine ⟨hlength, ⟨_, fun other => ?_, .inside hmemory, fun _ => hmemory⟩, ?_, ?_, ?_⟩
      · rw [hmore]
        exact ⟨.inl, fun hother => hother.resolve_right (hnames other)⟩
      · rw [Session.push, Report.count_push, if_pos rfl, List.filter_append]
        simpa [hrejects] using h.errors
      · intro row hrow
        have hne : row ≠ before.line + 1 := Nat.ne_of_gt hrow
        rw [Session.push, Report.get_push, if_neg fun heq => hne heq.1]
        exact h.later row (Nat.lt_of_succ_lt hrow)
      · rw [Session.push, Report.get_push, if_pos ⟨rfl, rfl, rfl⟩, hlater]
        exact Nat.le_refl 1

section Runs

variable {options : Options} (happlies : c.Applies options storage) {schema : Schema}
  (hschema : c.IsSchema schema)
include happlies

include hschema in
/-- All records, by induction on those that are left. -/
theorem midway_mapM {start : Nat} (rest : List String) {values : List String} {session : Session}
    (h : c.Midway storage start values session) :
    c.Midway storage start (values ++ rest)
      ((rest.map fun value => [value]).mapM
        (schema.validateRecord ⟨schema.settings, options, storage.toStorage⟩) session).2 := by
  induction rest generalizing values session with
  | nil =>
      rw [List.append_nil]
      exact h
  | cons value rest ih =>
      have hstep := h.recorded fun named hready =>
        recorded_validateRecord happlies hschema hready value
      have hrest := ih hstep
      rw [List.append_assoc, List.singleton_append] at hrest
      rw [List.map_cons, mapM_cons_apply]
      exact hrest

/-- At the end the entries that nothing named are reported, each of them once. -/
theorem finish_report {named : List (List PathPart)} {session : Session}
    (h : c.Remembers storage named session.memory) :
    ∃ missing : List (List (List Char)), missing.Nodup ∧
      (∀ names, names ∈ missing ↔
        storage.Awaits c.root c.rule names ∧ Path.nameParts names ∉ named) ∧
      ∃ memory, (Session.finish storage.toStorage session).2.report =
        (Session.pushAll ⟨session.line, c.column, session.severity, session.report, memory⟩ .error
          (missing.map fun names =>
            Session.unreferencedText c.column (namesPath names) c.root)).report := by
  obtain ⟨found, htells, hfinds⟩ := MemoryStorage.exists_tells_walk happlies.built.plain
    happlies.root_ne_nil (c.rule == .includeFolder) happlies.isFolder
  refine ⟨found.filter fun names => !named.contains (Path.nameParts names), hfinds.nodup.filter _,
    fun names => ?_, ?_⟩
  · rw [List.mem_filter, hfinds.mem_iff, Bool.not_eq_true', ← Bool.not_eq_true,
      List.contains_iff_mem, beq_iff_eq, MemoryStorage.awaits_iff]
  -- One folder was noted, so one walk is compared with what was named.
  · have htaken : (Memory.takeReferences session.memory).1 = [c.references named] := by
      rw [Memory.takeReferences, h.slots]
      rfl
    have htruthful : (Memory.takeReferences session.memory).2.probes.Truthful storage.toStorage :=
      h.truthful
    have hroots : (c.references named).roots.entries = [(c.root.parts, c.root, named)] := rfl
    simp only [Session.finish, Session.reportReferences, hroots, bind_apply, pure_apply,
      modify_apply, Session.remembering_apply, htaken, mapM_cons_apply, mapM_nil_apply]
    generalize (Memory.takeReferences session.memory).2 = taken at htruthful ⊢
    obtain ⟨hwalked, -, -⟩ := htells taken htruthful
    refine ⟨(walk storage.toStorage c.root (c.rule == .includeFolder) taken).2, ?_⟩
    simp only [Session.reportFolder, references]
    generalize walk storage.toStorage c.root _ taken = walked at hwalked ⊢
    obtain ⟨entries, memory⟩ := walked
    cases hwalked
    rfl

end Runs

section Outcomes

theorem midway_start (c : FolderCheck) (storage : MemoryStorage) (start : Nat) (memoize : Bool) :
    c.Midway storage start [] { Session.start memoize with line := start } where
  line := rfl
  memory := ⟨[], by simp, .start (Probes.truthful_start storage.toStorage memoize) rfl,
    fun h => absurd rfl h⟩
  errors := rfl
  later _ _ := rfl
  current := Nat.zero_le 1

variable {options : Options} (happlies : c.Applies options storage) {schema : Schema}
  (hschema : c.IsSchema schema) {values : List String} (hvalues : values ≠ [])

include hvalues in
/-- A run over records of one field has an outcome if its start is in order. -/
theorem validateRecords_eq_outcomeOf {header : Option (List String)}
    (hheader : schema.settings.noHeader = false →
      ∃ fields, header = some fields ∧ schema.checkHeader fields = .ok ())
    (hcount : schema.settings.noHeader = true → schema.expectedColumns = 1) (storage : Storage) :
    schema.validateRecords options storage header (values.map fun value => [value]) =
      .ok (schema.outcomeOf options storage (values.map fun value => [value])) := by
  unfold Schema.validateRecords
  split
  · rename_i hnone
    obtain ⟨value, rest, rfl⟩ := List.exists_cons_of_ne_nil hvalues
    have hstart : schema.checkCount [value] = .ok () := by
      rw [Schema.checkCount, hcount hnone]
      rfl
    rw [Schema.run_map_ok]
    simp only [List.map_cons, Schema.checkStart, hstart]
    rfl
  · rename_i hsome
    obtain ⟨fields, rfl, hfields⟩ := hheader (Bool.not_eq_true _ ▸ hsome)
    simp only [Schema.run_map_ok, Schema.checkStart, hfields]
    rfl

include happlies hschema hvalues

theorem exists_accounts_outcomeOf :
    ∃ missing, c.Accounts storage values ((schema.firstSession options).line + values.length)
      missing (schema.outcomeOf options storage.toStorage
        (values.map fun value => [value])).report := by
  -- There are records, so the run goes from the last of them to its end.
  have hsome : (values.map fun value => [value]).isEmpty = false := by
    rw [List.isEmpty_map, List.isEmpty_eq_false_iff]
    exact hvalues
  obtain ⟨last, hmidway, hrun⟩ : ∃ last,
      c.Midway storage (schema.firstSession options).line values last ∧
      (schema.outcomeOf options storage.toStorage (values.map fun value => [value])).report =
        (Session.finish storage.toStorage last).2.report := by
    refine ⟨_, midway_mapM happlies hschema values
      (midway_start c storage (schema.firstSession options).line options.memoize), ?_⟩
    simp only [Schema.outcomeOf, Schema.runRecords, Schema.validateAll, Schema.checkEmpty, hsome,
      Bool.false_and, Bool.false_eq_true, if_false, bind_apply, pure_apply]
    rfl
  obtain ⟨named, hnamed, -, hremembers⟩ := hmidway.memory
  obtain ⟨missing, hnodup, hmissing, memory, hreport⟩ :=
    finish_report happlies (hremembers hvalues)
  refine ⟨missing, hnodup, fun names => ?_,
    ⟨last.report.get last.line c.column .error, hmidway.current, ?_⟩, ?_⟩
  · rw [hmissing, hnamed, not_exists]
    refine and_congr_right fun hawaits => forall_congr' fun value => ?_
    rw [not_and]
    refine imp_congr_right fun hvalue => not_congr ?_
    exact ⟨MemoryStorage.NamesEntry.named, hawaits.namesEntry⟩
  · rw [hrun, hreport, ← hmidway.line]
    exact Session.get_pushAll ⟨last.line, c.column, last.severity, last.report, memory⟩ .error _
  · rw [hrun, hreport, Session.count_pushAll, List.length_map, hmidway.errors]

end Outcomes

end FolderCheck

end CsvSchema
