import CsvSchema.Compilation
import CsvSchema.Proofs.Json.Records

/-!
# Trees that are read back

A tree comes back from its JSON text as it was, as long as the text nests no deeper than a reader
goes.  So a schema can be compiled from the text as well as from the tree, `Schema.ofJson_print`.
-/

namespace CsvSchema

open Json (Value IgnoresSpelling)

section Spelling

theorem Span.ignoresSpelling_ofJson? : IgnoresSpelling Span.ofJson? := by
  intro value
  have hnat : ∀ value : Value, value.reread.nat? Decimal.maxWord32 = value.nat? Decimal.maxWord32 :=
    Json.ignoresSpelling_nat? _
  rw [ofJson?, ofJson?, Json.recordFields?_reread]
  rcases Json.recordFields? fieldNames value with
    _ | ⟨_ | ⟨_ | line, _ | ⟨_ | column, _ | ⟨_ | endLine, _ | ⟨_ | endColumn, _ | _⟩⟩⟩⟩⟩
  all_goals try rfl
  simp only [Option.map_some, List.map_cons, List.map_nil, hnat]

/-- A node is read as before when its children are. -/
theorem Node.ignoresSpelling_ofRecord? {child : Value → Option Child} (h : IgnoresSpelling child) :
    IgnoresSpelling (Node.ofRecord? child) := by
  intro value
  rw [ofRecord?, ofRecord?, Json.recordFields?_reread]
  rcases Json.recordFields? fieldNames value with
    _ | ⟨_ | ⟨_ | tag, _ | ⟨children, _ | ⟨span, _ | _⟩⟩⟩⟩
  all_goals try rfl
  have htag : tag.reread.text? = tag.text? := Json.ignoresSpelling_text? tag
  simp only [Option.map_some, List.map_cons, List.map_nil, htag, h.itemsOf?.defaulted?_map,
    Span.ignoresSpelling_ofJson?.optional?_map]

theorem Child.ignoresSpelling_ofJson? (depth : Nat) : IgnoresSpelling (Child.ofJson? depth) := by
  induction depth with
  | zero =>
      intro value
      cases value with
      | string units => simp only [Value.reread, ofJson?, Json.unitsText?_reread]
      | _ => rfl
  | succ depth ih =>
      intro value
      have hnode := Node.ignoresSpelling_ofRecord? ih value
      cases value with
      | string units => simp only [Value.reread, ofJson?, Json.unitsText?_reread]
      | _ => exact congrArg (·.map Node.toChild) hnode

theorem Child.ignoresSpelling_ofRootItem? : IgnoresSpelling Child.ofRootItem? := by
  intro value
  rw [ofRootItem?, ofRootItem?, Value.isSound_reread, Value.height_reread,
    ignoresSpelling_ofJson? value.height value]

/-- A tree is read from a value that comes back as from the value itself. -/
theorem Node.ignoresSpelling_ofJson? : IgnoresSpelling Node.ofJson? :=
  ignoresSpelling_ofRecord? Child.ignoresSpelling_ofRootItem?

end Spelling

section Writing

/-- A span whose numbers fit into 32 bits. -/
structure Span.Fits (span : Span) : Prop where
  line : span.line ≤ Decimal.maxWord32
  column : span.column ≤ Decimal.maxWord32
  endLine : span.endLine ≤ Decimal.maxWord32
  endColumn : span.endColumn ≤ Decimal.maxWord32

mutual

/-- The numbers of all spans in a child fit. -/
def Child.SpansFit : Child → Prop
  | .token _ => True
  | .node _ children span => childrenSpansFit children ∧ ∀ s ∈ span, s.Fits

/-- The numbers of all spans in some children fit. -/
def childrenSpansFit : List Child → Prop
  | [] => True
  | child :: rest => child.SpansFit ∧ childrenSpansFit rest

end

theorem Span.toJson_eq (span : Span) : span.toJson = Json.record fieldNames
    [some (.ofNat span.line), some (.ofNat span.column), some (.ofNat span.endLine),
      some (.ofNat span.endColumn)] :=
  rfl

theorem nodeJson_eq (tag : String) (children : List Value) (span : Option Span) :
    nodeJson tag children span = Json.record Node.fieldNames
      [some (.ofString tag), some (.array children), span.map Span.toJson] := by
  cases span <;> rfl

theorem Span.Fits.plain_toJson {span : Span} (h : span.Fits) : span.toJson.Plain := by
  have hword : ∀ {n : Nat}, n ≤ Decimal.maxWord32 → (Value.ofNat n).Plain := fun hn =>
    .nat (Nat.le_trans hn (by decide))
  rw [Span.toJson_eq]
  refine Json.plain_record fun value hvalue => ?_
  simp only [List.mem_cons, Option.some.injEq, List.not_mem_nil, or_false] at hvalue
  rcases hvalue with rfl | rfl | rfl | rfl
  · exact hword h.line
  · exact hword h.column
  · exact hword h.endLine
  · exact hword h.endColumn

mutual

theorem Child.plain_toJson (child : Child) (h : child.SpansFit) : child.toJson.Plain := by
  cases child with
  | token text => exact .text text
  | node tag children span =>
      obtain ⟨hchildren, hspan⟩ := h
      rw [Child.toJson, nodeJson_eq]
      refine Json.plain_record fun value hvalue => ?_
      simp only [List.mem_cons, Option.some.injEq, List.not_mem_nil, or_false] at hvalue
      rcases hvalue with rfl | rfl | hvalue
      · exact .text tag
      · exact .array (plain_childrenJson children hchildren)
      · obtain ⟨s, hs, rfl⟩ := Option.map_eq_some_iff.1 hvalue.symm
        exact (hspan s hs).plain_toJson

theorem plain_childrenJson (children : List Child) (h : childrenSpansFit children) :
    ∀ value ∈ childrenJson children, value.Plain := by
  cases children with
  | nil => exact fun _ hvalue => nomatch hvalue
  | cons child rest =>
      rw [childrenJson, List.forall_mem_cons]
      exact ⟨child.plain_toJson h.1, plain_childrenJson rest h.2⟩

end

end Writing

section Reading

theorem Span.ofJson?_toJson {span : Span} (h : span.Fits) :
    Span.ofJson? span.toJson = some span := by
  rw [ofJson?, toJson_eq, Json.recordFields?_record (by decide) rfl]
  simp only [Value.nat?_ofNat h.line, Value.nat?_ofNat h.column, Value.nat?_ofNat h.endLine,
    Value.nat?_ofNat h.endColumn]

/-- A node comes back when its children do. -/
theorem Node.ofRecord?_nodeJson {child : Value → Option Child} {values : List Value}
    {children : List Child} (hchildren : values.mapM child = some children) (tag : String)
    {span : Option Span} (hspan : ∀ s ∈ span, s.Fits) :
    Node.ofRecord? child (nodeJson tag values span) = some ⟨tag, children, span⟩ := by
  have hitems : itemsOf? child (.array values) = some children := hchildren
  have hoptional : Json.optional? Span.ofJson? (span.map Span.toJson) = some span := by
    cases span with
    | none => rfl
    | some s => exact congrArg (·.map some) (Span.ofJson?_toJson (hspan s rfl))
  rw [ofRecord?, nodeJson_eq, Json.recordFields?_record (by decide) rfl]
  simp only [Value.text?_ofString, Json.defaulted?, hitems, hoptional]

/-- A node is two levels higher than its children. -/
theorem itemsHeight_add_two_le (tag : String) (values : List Value) (span : Option Span) :
    Json.itemsHeight values + 2 ≤ (nodeJson tag values span).height := by
  simp only [nodeJson, Json.member, Value.height, Json.membersHeight]
  omega

mutual

/-- A child comes back when it is read as deep as its value is nested. -/
theorem Child.ofJson?_toJson (child : Child) (h : child.SpansFit) {depth : Nat}
    (hdepth : child.toJson.height ≤ depth) : Child.ofJson? depth child.toJson = some child := by
  cases child with
  | token text =>
      have htext := Json.unitsText?_unitsOf text
      cases depth <;> rw [Child.toJson, Value.ofString, Child.ofJson?, htext, Option.map_some,
        String.ofList_toList]
  | node tag children span =>
      -- Each node takes two levels of the value but only one of the depth.
      have hheight := itemsHeight_add_two_le tag (childrenJson children) span
      rw [Child.toJson] at hdepth ⊢
      obtain ⟨below, rfl⟩ : ∃ below, depth = below + 1 := ⟨depth - 1, by omega⟩
      have hchildren := mapM_childrenJson children h.1 (show _ ≤ below by omega)
      exact congrArg (·.map Node.toChild) (Node.ofRecord?_nodeJson hchildren tag h.2)

/-- Children come back one by one. -/
theorem mapM_childrenJson (children : List Child) (h : childrenSpansFit children) {depth : Nat}
    (hdepth : Json.itemsHeight (childrenJson children) ≤ depth) :
    (childrenJson children).mapM (Child.ofJson? depth) = some children := by
  cases children with
  | nil => rfl
  | cons child rest =>
      rw [childrenJson, Json.itemsHeight] at hdepth
      rw [childrenJson, List.mapM_cons, Child.ofJson?_toJson child h.1 (by omega),
        mapM_childrenJson rest h.2 (by omega)]
      rfl

end

/-- Children of the root are read as whole values first, and nothing speaks against these. -/
theorem mapM_ofRootItem? {children : List Child} (h : childrenSpansFit children)
    (hheight : Json.itemsHeight (childrenJson children) + 2 ≤ Json.maxHeight) :
    (childrenJson children).mapM Child.ofRootItem? = some children := by
  induction children with
  | nil => rfl
  | cons child rest ih =>
      rw [childrenJson, Json.itemsHeight] at hheight
      have hsound : child.toJson.isSound = true := (child.plain_toJson h.1).isSound
      have hchild : Child.ofRootItem? child.toJson = some child := by
        rw [Child.ofRootItem?, hsound, Bool.true_and, if_pos (decide_eq_true (by omega)),
          Child.ofJson?_toJson child h.1 (Nat.le_refl _)]
      rw [childrenJson, List.mapM_cons, hchild, ih h.2 (by omega)]
      rfl

/-- A tree comes back from its text. -/
theorem Node.read?_print {tree : Node} (hheight : tree.toJson.height ≤ Json.maxHeight)
    (hspans : tree.toChild.SpansFit) : Node.read? tree.print = some tree := by
  have hvalue : Json.read? tree.print = some tree.toJson.reread :=
    (tree.toChild.plain_toJson hspans).read?_print Json.Layout.isBlank_compact
  have hchildren : (childrenJson tree.children).mapM Child.ofRootItem? = some tree.children :=
    mapM_ofRootItem? hspans.1
      (Nat.le_trans (itemsHeight_add_two_le tree.tag _ tree.span) hheight)
  rw [read?, hvalue, Option.bind_some, ignoresSpelling_ofJson? tree.toJson]
  exact ofRecord?_nodeJson hchildren tree.tag hspans.2

/-- A tree comes back from its text, so it makes no difference whether the tree or its text is
compiled, whatever comes of it. -/
theorem Schema.ofJson_print {tree : Node} (hheight : tree.toJson.height ≤ Json.maxHeight)
    (hspans : tree.toChild.SpansFit) :
    Node.read? tree.print = some tree ∧ Schema.ofJson tree.print = Schema.ofTree tree := by
  have hread := Node.read?_print hheight hspans
  exact ⟨hread, by rw [ofJson, hread]⟩

/-- The tree of a schema whose column has a quote, a control character, and a character beyond the
first plane in its name, with a span. -/
def treeOfAwkwardName : Node :=
  ⟨"schema", [.node "prolog" [.token "version 1.0"] none,
    .node "body" [.node "column_definition"
      [.token "a\x01\"😀:", .node "column_rule" [] none] (some ⟨2, 1, 2, 9⟩)] none], none⟩

theorem Schema.ofJson_print_of_awkward_name :
    treeOfAwkwardName.toJson.height ≤ Json.maxHeight ∧ treeOfAwkwardName.toChild.SpansFit ∧
      Node.read? treeOfAwkwardName.print = some treeOfAwkwardName ∧
      Schema.ofJson treeOfAwkwardName.print = Schema.ofTree treeOfAwkwardName ∧
      (Schema.ofTree treeOfAwkwardName).map (·.columns.map (·.name)) = .ok ["a\x01\"😀"] := by
  have hheight : treeOfAwkwardName.toJson.height ≤ Json.maxHeight := by decide
  have hspan : (⟨2, 1, 2, 9⟩ : Span).Fits := ⟨by decide, by decide, by decide, by decide⟩
  have hspans : treeOfAwkwardName.toChild.SpansFit := by
    simpa [treeOfAwkwardName, Node.toChild, Child.SpansFit, childrenSpansFit] using hspan
  obtain ⟨hread, hcompiled⟩ := Schema.ofJson_print hheight hspans
  exact ⟨hheight, hspans, hread, hcompiled, by with_unfolding_all rfl⟩

end Reading

end CsvSchema
