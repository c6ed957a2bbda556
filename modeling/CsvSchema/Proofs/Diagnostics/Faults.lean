import CsvSchema.Proofs.Slots.Numbering

/-!
# What faults are about

A fault that comes up when the tag of a node is looked at is about this node, with one exception: a
repeated column is about the definition of the column, and only a schema can be refused for it,
`isOwn_or_repeatedColumn_of_reduceTag`.  That a node is too deep, or a root no schema, is found out before or
after the tag is looked at.
-/

namespace CsvSchema

/-- Whether a fault is what the tag of a node says about this node. -/
def Fault.isOwn : Fault → Bool
  | tooDeep | rootIsNoSchema _ | repeatedColumn _ => false
  | _ => true

theorem Fault.node_of_isOwn {fault : Fault} (h : fault.isOwn = true) : fault.node = none := by
  cases fault with
  | repeatedColumn name => cases h
  | _ => rfl

/-- Every fault that can come up is what the tag of the node that is being reduced says about it. -/
def OwnFaults {α : Type} (action : Except Fault α) : Prop :=
  ∀ fault, action = .error fault → fault.isOwn = true

namespace OwnFaults

variable {α β σ : Type} {action : Except Fault α} {fault : Fault}

theorem ok (a : α) : OwnFaults (.ok a) := fun _ h => nomatch h

theorem pure (a : α) : OwnFaults (Pure.pure a : Except Fault α) := ok a

theorem error (h : fault.isOwn = true) : OwnFaults (.error fault : Except Fault α) := by
  rintro _ ⟨⟩
  exact h

theorem throw (h : fault.isOwn = true) : OwnFaults (MonadExcept.throw fault : Except Fault α) :=
  error h

theorem bind {next : α → Except Fault β} (h : OwnFaults action) (hnext : ∀ a, OwnFaults (next a)) :
    OwnFaults (action >>= next) := by
  cases action with
  | error e => exact error (h e rfl)
  | ok a => exact hnext a

theorem map (f : α → β) (h : OwnFaults action) : OwnFaults (action.map f) := by
  cases action with
  | error e => exact error (h e rfl)
  | ok a => exact ok (f a)

theorem mapM {read : α → Except Fault β} (h : ∀ a, OwnFaults (read a)) (as : List α) :
    OwnFaults (as.mapM read) := by
  induction as with
  | nil => exact pure []
  | cons a as ih =>
      rw [List.mapM_cons]
      exact (h a).bind fun _ => ih.bind fun _ => pure _

theorem foldlM {step : σ → α → Except Fault σ} (h : ∀ state a, OwnFaults (step state a))
    (as : List α) (state : σ) : OwnFaults (as.foldlM step state) := by
  induction as generalizing state with
  | nil => exact pure state
  | cons a as ih =>
      rw [List.foldlM_cons]
      exact (h state a).bind ih

theorem wrongCount (allowed : List Nat) (parts : List Part) :
    OwnFaults (CsvSchema.wrongCount allowed parts : Except Fault α) := error rfl

end OwnFaults

section Arguments

variable (part : Part)

theorem ownFaults_asToken : OwnFaults part.asToken := by
  cases part with
  | token text => exact .ok text
  | _ => exact .error rfl

theorem ownFaults_asOperand : OwnFaults part.asOperand := by
  cases part with
  | operand operand => exact .ok operand
  | token text => exact .ok _
  | _ => exact .error rfl

theorem ownFaults_asReference : OwnFaults part.asReference := by
  unfold Part.asReference
  split
  · exact .ok _
  · exact .error rfl

theorem ownFaults_asCheck : OwnFaults part.asCheck := by
  cases part with
  | check check => exact .ok check
  | _ => exact .error rfl

theorem ownFaults_asClause : OwnFaults part.asClause := by
  cases part with
  | clause checks => exact .ok checks
  | check check => exact .ok [check]
  | _ => exact .error rfl

theorem ownFaults_asColumn : OwnFaults part.asColumn := by
  cases part with
  | column column => exact .ok column
  | _ => exact .error rfl

theorem ownFaults_asRule : OwnFaults part.asRule := by
  cases part with
  | rule rule => exact .ok rule
  | _ => exact .error rfl

theorem ownFaults_asColumnDirective : OwnFaults part.asColumnDirective := by
  cases part with
  | columnDirective directive => exact .ok directive
  | _ => exact .error rfl

theorem ownFaults_asSetting : OwnFaults part.asSetting := by
  cases part with
  | setting setting => exact .ok setting
  | _ => exact .error rfl

theorem ownFaults_asSchema : OwnFaults part.asSchema := by
  cases part with
  | schema schema => exact .ok schema
  | _ => exact .error rfl

theorem ownFaults_asProlog : OwnFaults part.asProlog := by
  cases part with
  | prolog version settings => exact .ok (version, settings)
  | _ => exact .error rfl

theorem ownFaults_asBody : OwnFaults part.asBody := by
  cases part with
  | body columns slots => exact .ok (columns, slots)
  | _ => exact .error rfl

theorem ownFaults_refuseRest (parts : List Part) : OwnFaults (refuseRest parts) := by
  cases parts with
  | nil => exact .ok ()
  | cons part rest => exact .error rfl

theorem ownFaults_readBound {α : Type} (rule : String) (read : String → Option α) (raw : String) :
    OwnFaults (readBound rule read raw) := by
  unfold readBound
  split
  · exact .ok none
  · split
    · exact .ok _
    · exact .error rfl

theorem ownFaults_readBounds {α : Type} [LE α] [DecidableLE α] (form : BoundForm α)
    (lower upper : Part) : OwnFaults (readBounds form lower upper) := by
  refine (ownFaults_asToken lower).bind fun _ => (ownFaults_readBound _ _ _).bind fun low =>
    (ownFaults_asToken upper).bind fun _ => (ownFaults_readBound _ _ _).bind fun high => ?_
  split
  · split
    · exact .pure _
    · exact .throw rfl
  · exact .pure _

end Arguments

section Operands

variable (parts : List Part)

theorem ownFaults_reduceProvided : OwnFaults (reduceProvided parts) := by
  unfold reduceProvided
  split
  · exact .ok _
  · refine (ownFaults_asOperand _).bind fun operand => ?_
    split
    · exact .pure _
    · exact .pure _
  · exact .wrongCount _ _

theorem ownFaults_reduceReference : OwnFaults (reduceReference parts) := by
  unfold reduceReference
  split
  · refine (ownFaults_asToken _).bind fun raw => ?_
    dsimp only
    split
    · exact .throw rfl
    · exact .pure _
  · exact .wrongCount _ _

theorem ownFaults_reduceConcat : OwnFaults (reduceConcat parts) := by
  unfold reduceConcat
  split
  · exact .error rfl
  · exact (OwnFaults.mapM ownFaults_asOperand _).map _

theorem ownFaults_reduceNoExtension : OwnFaults (reduceNoExtension parts) := by
  unfold reduceNoExtension
  split
  · exact (ownFaults_asOperand _).map _
  · exact .wrongCount _ _

theorem ownFaults_reduceUriDecode : OwnFaults (reduceUriDecode parts) := by
  unfold reduceUriDecode
  split
  · exact (ownFaults_asOperand _).bind fun _ => .pure _
  · exact (ownFaults_asOperand _).bind fun _ => (ownFaults_asOperand _).bind fun _ => .pure _
  · exact .wrongCount _ _

theorem ownFaults_reduceFile : OwnFaults (reduceFile parts) := by
  unfold reduceFile
  split
  · exact (ownFaults_asOperand _).bind fun _ => .pure _
  · exact (ownFaults_asOperand _).bind fun _ => (ownFaults_asOperand _).bind fun _ => .pure _
  · exact .wrongCount _ _

end Operands

section Checks

variable (parts : List Part)

theorem ownFaults_reducePlain (test : ValueTest) : OwnFaults (reducePlain test parts) := by
  unfold reducePlain
  split
  · exact .ok _
  · exact .wrongCount _ _

theorem ownFaults_reduceRegex : OwnFaults (reduceRegex parts) := by
  unfold reduceRegex
  split
  · refine (ownFaults_asToken _).bind fun raw => ?_
    split
    · exact .pure _
    · exact .throw rfl
  · exact .wrongCount _ _

theorem ownFaults_reduceRange : OwnFaults (reduceRange parts) := by
  unfold reduceRange
  split
  · exact (ownFaults_readBounds _ _ _).bind fun _ => .pure _
  · exact .wrongCount _ _

theorem ownFaults_reduceLength : OwnFaults (reduceLength parts) := by
  unfold reduceLength
  split
  · refine (ownFaults_asToken _).bind fun raw => ?_
    split
    · exact .pure _
    · exact .throw rfl
  · exact (ownFaults_readBounds _ _ _).bind fun _ => .pure _
  · exact .wrongCount _ _

theorem ownFaults_reduceBounded {α : Type} [LE α] [DecidableLE α] (form : BoundForm α)
    (test : Bounds α → ValueTest) : OwnFaults (reduceBounded form test parts) := by
  unfold reduceBounded
  split
  · exact .ok _
  · exact (ownFaults_readBounds _ _ _).bind fun _ => .pure _
  · exact .wrongCount _ _

theorem ownFaults_reduceComparison (relation : Relation) :
    OwnFaults (reduceComparison relation parts) := by
  unfold reduceComparison
  split
  · exact (ownFaults_asOperand _).bind fun _ => .pure _
  · exact .wrongCount _ _

theorem ownFaults_reduceAny : OwnFaults (reduceAny parts) := by
  unfold reduceAny
  split
  · exact .error rfl
  · exact (OwnFaults.mapM ownFaults_asOperand _).bind fun _ => .pure _

theorem ownFaults_reduceComposedDate : OwnFaults (reduceComposedDate parts) := by
  unfold reduceComposedDate
  split
  · exact (ownFaults_asOperand _).bind fun _ => (ownFaults_asOperand _).bind fun _ =>
      (ownFaults_asOperand _).bind fun _ => .pure _
  · exact (ownFaults_asOperand _).bind fun _ => (ownFaults_asOperand _).bind fun _ =>
      (ownFaults_asOperand _).bind fun _ => (ownFaults_readBounds _ _ _).bind fun _ => .pure _
  · exact .wrongCount _ _

theorem ownFaults_reducePartialDate : OwnFaults (reducePartialDate parts) := by
  unfold reducePartialDate
  split
  · exact (ownFaults_asOperand _).bind fun _ => (ownFaults_asOperand _).bind fun _ =>
      (ownFaults_asOperand _).bind fun _ => .pure _
  · exact .wrongCount _ _

theorem ownFaults_reduceUnique (slot : Nat) : OwnFaults (reduceUnique slot parts) :=
  (OwnFaults.mapM ownFaults_asReference _).bind fun _ => .pure _

theorem ownFaults_reduceIdentical (slot : Nat) : OwnFaults (reduceIdentical slot parts) := by
  unfold reduceIdentical
  split
  · exact .ok _
  · exact .wrongCount _ _

theorem ownFaults_reduceFileExists : OwnFaults (reduceFileExists parts) := by
  unfold reduceFileExists
  split
  · exact .ok _
  · exact (ownFaults_asOperand _).bind fun _ => .pure _
  · exact .wrongCount _ _

theorem ownFaults_readFolderRule (part : Part) : OwnFaults (readFolderRule part) := by
  refine (ownFaults_asToken part).bind fun raw => ?_
  dsimp only
  split
  · exact .pure _
  · exact .throw rfl

theorem ownFaults_reduceIntegrity (slot : Nat) : OwnFaults (reduceIntegrity slot parts) := by
  unfold reduceIntegrity
  split
  · exact (ownFaults_readFolderRule _).bind fun _ => .pure _
  · exact (ownFaults_asOperand _).bind fun _ => (ownFaults_readFolderRule _).bind fun _ => .pure _
  · exact (ownFaults_asOperand _).bind fun _ => (ownFaults_asOperand _).bind fun _ =>
      (ownFaults_readFolderRule _).bind fun _ => .pure _
  · exact .wrongCount _ _

theorem ownFaults_reduceChecksum : OwnFaults (reduceChecksum parts) := by
  unfold reduceChecksum
  split
  · refine (ownFaults_asOperand _).bind fun _ => (ownFaults_asToken _).bind fun raw => ?_
    dsimp only
    split
    · exact .pure _
    · exact .throw rfl
  · exact .wrongCount _ _

theorem ownFaults_reduceFileCount : OwnFaults (reduceFileCount parts) := by
  unfold reduceFileCount
  split
  · exact (ownFaults_asOperand _).bind fun _ => .pure _
  · exact .wrongCount _ _

theorem ownFaults_reduceLogical (combine : List Check → Check) :
    OwnFaults (reduceLogical combine parts) := by
  unfold reduceLogical
  split
  · exact .error rfl
  · exact (OwnFaults.mapM ownFaults_asCheck _).bind fun _ => .pure _

theorem ownFaults_reduceChecks : OwnFaults (reduceChecks parts) := by
  unfold reduceChecks
  split
  · exact .error rfl
  · exact .mapM ownFaults_asCheck _

theorem ownFaults_reduceSingle : OwnFaults (reduceSingle parts) := by
  unfold reduceSingle
  split
  · exact (ownFaults_asCheck _).bind fun _ => .pure _
  · exact (ownFaults_asReference _).bind fun _ => (ownFaults_asCheck _).bind fun _ => .pure _
  · exact .wrongCount _ _

theorem ownFaults_reduceConditional : OwnFaults (reduceConditional parts) := by
  unfold reduceConditional
  split
  · exact (ownFaults_asCheck _).bind fun _ => (ownFaults_asClause _).bind fun _ => .pure _
  · exact (ownFaults_asCheck _).bind fun _ => (ownFaults_asClause _).bind fun _ =>
      (ownFaults_asClause _).bind fun _ => .pure _
  · exact .wrongCount _ _

theorem ownFaults_reduceCase : OwnFaults (reduceCase parts) := by
  unfold reduceCase
  split
  · exact (ownFaults_asCheck _).bind fun _ => (ownFaults_asClause _).bind fun _ => .pure _
  · exact .wrongCount _ _

theorem ownFaults_reduceSwitch : OwnFaults (reduceSwitch parts) := by
  unfold reduceSwitch
  split
  · exact .error rfl
  · exact .error rfl
  · exact .ok _
  · exact (ownFaults_asClause _).bind fun _ => (ownFaults_refuseRest _).bind fun _ => .pure _

end Checks

section Documents

variable (parts : List Part)

theorem ownFaults_readSeparator (raw : String) : OwnFaults (readSeparator raw) := by
  unfold readSeparator
  dsimp only
  split
  · exact .ok _
  · split
    · split
      · exact .ok _
      · exact .error rfl
    · exact .error rfl

theorem ownFaults_readTotalColumns (raw : String) : OwnFaults (readTotalColumns raw) := by
  unfold readTotalColumns
  split
  · exact .ok _
  · exact .error rfl

theorem ownFaults_reduceValued {read : String → Except Fault GlobalSetting}
    (h : ∀ raw, OwnFaults (read raw)) : OwnFaults (reduceValued read parts) := by
  unfold reduceValued
  split
  · exact (ownFaults_asToken _).bind h
  · exact .wrongCount _ _

theorem ownFaults_reduceFlag {α : Type} (setting : α) : OwnFaults (reduceFlag setting parts) := by
  unfold reduceFlag
  split
  · exact .ok _
  · exact .wrongCount _ _

theorem ownFaults_reduceSetting (directive : GlobalDirective) :
    OwnFaults (reduceSetting directive parts) := by
  cases directive with
  | separator => exact ownFaults_reduceValued _ fun raw => (ownFaults_readSeparator raw).map _
  | totalColumns => exact ownFaults_reduceValued _ fun raw => (ownFaults_readTotalColumns raw).map _
  | _ => exact ownFaults_reduceFlag _ _

theorem ownFaults_addSetting (state : FileSettings × List GlobalDirective) (part : Part) :
    OwnFaults (addSetting state part) := by
  refine (ownFaults_asSetting part).bind fun setting => ?_
  split
  · exact .throw rfl
  · exact .pure _

theorem ownFaults_reduceSettings : OwnFaults (reduceSettings parts) := by
  refine (OwnFaults.foldlM ownFaults_addSetting _ _).bind fun state => ?_
  dsimp only
  split
  · exact .throw rfl
  · exact .pure _

theorem ownFaults_reduceProlog : OwnFaults (reduceProlog parts) := by
  unfold reduceProlog
  split
  · dsimp only
    split
    · exact .throw rfl
    · exact (ownFaults_refuseRest _).bind fun _ => .pure _
  · exact .error rfl

theorem ownFaults_addColumnDirective (state : ColumnSettings × List ColumnDirective)
    (directive : ColumnDirective) : OwnFaults (addColumnDirective state directive) := by
  unfold addColumnDirective
  split
  · exact .error rfl
  · exact .ok _

theorem ownFaults_reduceColumnSettings : OwnFaults (reduceColumnSettings parts) :=
  (OwnFaults.mapM ownFaults_asColumnDirective _).bind fun _ =>
    (OwnFaults.foldlM ownFaults_addColumnDirective _ _).bind fun _ => .pure _

theorem ownFaults_reduceRule : OwnFaults (reduceRule parts) :=
  (ownFaults_refuseRest _).bind fun _ => .pure _

theorem ownFaults_reduceColumn : OwnFaults (reduceColumn parts) := by
  unfold reduceColumn
  split
  · refine (ownFaults_asToken _).bind fun raw => ?_
    dsimp only
    split
    · exact .throw rfl
    · exact (ownFaults_asRule _).bind fun _ => .pure _
  · exact .wrongCount _ _

theorem ownFaults_reduceBody (slot : Nat) : OwnFaults (reduceBody slot parts) :=
  (OwnFaults.mapM ownFaults_asColumn _).bind fun _ => .pure _

theorem ownFaults_reduceStart : OwnFaults (reduceStart parts) := by
  unfold reduceStart
  split
  · exact ownFaults_asSchema _
  · exact .wrongCount _ _

theorem ownFaults_reduceBodyPart : OwnFaults (reduceBodyPart parts) := by
  unfold reduceBodyPart
  split
  · exact .ok _
  · exact .ok _
  · exact .wrongCount _ _

end Documents

/-- Only a schema can have a fault that is about another node. -/
theorem NodeKind.ownFaults_reduce {kind : NodeKind} (hkind : kind ≠ .schema) (slot : Nat)
    (parts : List Part) : OwnFaults (kind.reduce slot parts) := by
  cases kind with
  | schema => exact absurd rfl hkind
  | comment => exact .ok _
  | prolog => exact ownFaults_reduceProlog _
  | body => exact ownFaults_reduceBody _ _
  | bodyPart => exact ownFaults_reduceBodyPart _
  | columnDirective directive => exact ownFaults_reduceFlag _ _
  | check =>
      simp only [reduce]
      split
      · exact (ownFaults_asCheck _).map _
      · exact .wrongCount _ _
  | start => exact (ownFaults_reduceStart _).map _
  | settings => exact (ownFaults_reduceSettings _).map _
  | column => exact (ownFaults_reduceColumn _).map _
  | rule => exact (ownFaults_reduceRule _).map _
  | columnSettings => exact (ownFaults_reduceColumnSettings _).map _
  | single => exact (ownFaults_reduceSingle _).map _
  | parenthesized => exact (ownFaults_reduceChecks _).map _
  | comparison relation => exact (ownFaults_reduceComparison _ _).map _
  | any => exact (ownFaults_reduceAny _).map _
  | regex => exact (ownFaults_reduceRegex _).map _
  | range => exact (ownFaults_reduceRange _).map _
  | length => exact (ownFaults_reduceLength _).map _
  | plain test => exact (ownFaults_reducePlain _ _).map _
  | identical => exact (ownFaults_reduceIdentical _ _).map _
  | unique => exact (ownFaults_reduceUnique _ _).map _
  | dateTime | zonedDateTime | date | time | ukDate => exact (ownFaults_reduceBounded _ _ _).map _
  | composedDate => exact (ownFaults_reduceComposedDate _).map _
  | partialDate => exact (ownFaults_reducePartialDate _).map _
  | fileExists => exact (ownFaults_reduceFileExists _).map _
  | integrity => exact (ownFaults_reduceIntegrity _ _).map _
  | checksum => exact (ownFaults_reduceChecksum _).map _
  | fileCount => exact (ownFaults_reduceFileCount _).map _
  | or | and => exact (ownFaults_reduceLogical _ _).map _
  | conditional => exact (ownFaults_reduceConditional _).map _
  | clause => exact (ownFaults_reduceChecks _).map _
  | switch => exact (ownFaults_reduceSwitch _).map _
  | switchCase => exact (ownFaults_reduceCase _).map _
  | provided => exact (ownFaults_reduceProvided _).map _
  | reference => exact (ownFaults_reduceReference _).map _
  | concat => exact (ownFaults_reduceConcat _).map _
  | noExtension => exact (ownFaults_reduceNoExtension _).map _
  | uriDecode => exact (ownFaults_reduceUriDecode _).map _
  | file => exact (ownFaults_reduceFile _).map _
  | setting directive => exact (ownFaults_reduceSetting _ _).map _

section Tags

variable {fault : Fault}

theorem exists_of_checkColumnNames {settings : FileSettings} {seen : List String}
    {columns : List ColumnDefinition}
    (h : checkColumnNames settings seen columns = .error fault) :
    ∃ name, fault = .repeatedColumn name := by
  induction columns generalizing seen with
  | nil => cases h
  | cons column rest ih =>
      simp only [checkColumnNames] at h
      split at h
      · cases h
        exact ⟨column.name, rfl⟩
      · exact ih h

/-- What a schema says about another node is that a column is repeated. -/
theorem isOwn_or_repeatedColumn {parts : List Part} (h : reduceSchema parts = .error fault) :
    fault.isOwn = true ∨ ∃ name, fault = .repeatedColumn name := by
  unfold reduceSchema at h
  split at h
  · rename_i head columns
    rcases Fallible.bind_eq_error.1 h with hhead | ⟨⟨version, settings⟩, -, h⟩
    · exact .inl (ownFaults_asProlog head fault hhead)
    · rcases Fallible.bind_eq_error.1 h with hbody | ⟨⟨definitions, slots⟩, -, h⟩
      · exact .inl (ownFaults_asBody columns fault hbody)
      · rcases Fallible.bind_eq_error.1 h with hnames | ⟨_, -, h⟩
        · exact .inr (exists_of_checkColumnNames hnames)
        · cases h
  · cases h
    exact .inl rfl

theorem NodeKind.eq_of_ofTag?_schema {tag : String} (h : ofTag? tag = some .schema) :
    tag = "schema" := by
  have hmem := mem_tags_of_ofTag? h
  simpa [tags, GlobalDirective.all, ColumnDirective.all] using hmem

/-- What a tag says is about its own node, but for a column that a schema repeats. -/
theorem isOwn_or_repeatedColumn_of_reduceTag {tag : String} {slot : Nat} {parts : List Part}
    (h : reduceTag tag slot parts = .error fault) :
    fault.isOwn = true ∨ tag = "schema" ∧ ∃ name, fault = .repeatedColumn name := by
  unfold reduceTag at h
  cases hkind : NodeKind.ofTag? tag with
  | some kind =>
      simp only [hkind] at h
      by_cases hschema : kind = .schema
      · subst hschema
        simp only [NodeKind.reduce] at h
        cases hparts : reduceSchema parts with
        | ok schema => simp [hparts, Except.map] at h
        | error raised =>
            simp only [hparts, Except.map, Except.error.injEq] at h
            subst h
            exact (isOwn_or_repeatedColumn hparts).imp_right
              (And.intro (NodeKind.eq_of_ofTag?_schema hkind))
      · exact .inl (((NodeKind.ownFaults_reduce hschema slot parts).map _) fault h)
  | none =>
      simp only [hkind] at h
      split at h
      · cases h
        exact .inl rfl
      · split at h
        · cases h
        · cases h
          exact .inl rfl

end Tags

end CsvSchema
