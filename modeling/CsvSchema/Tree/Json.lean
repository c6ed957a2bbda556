import CsvSchema.Tree.Basic
import CsvSchema.Json.Reader
import CsvSchema.Json.Printer
import CsvSchema.Json.Record

/-!
# Parse trees in JSON

A node is the record `tag`, `children`, `span`, of which only the tag must be there, and a token is
a string.  The members of the root are read as they come, so what it ignores may be anything that
is well-formed; a child is read as a whole first, so everything inside it has to be sound and
within the depth that is allowed.
-/

namespace CsvSchema

open Json (Value)

namespace Span

/-- The names of the fields of a span. -/
def fieldNames : List String := ["line", "column", "end_line", "end_column"]

/-- A span from its four numbers, none of which may be missing. -/
def ofJson? (value : Value) : Option Span :=
  match Json.recordFields? fieldNames value with
  | some [some line, some column, some endLine, some endColumn] =>
      let number := Value.nat? Decimal.maxWord32
      match number line, number column, number endLine, number endColumn with
      | some line, some column, some endLine, some endColumn =>
          some ⟨line, column, endLine, endColumn⟩
      | _, _, _, _ => none
  | _ => none

/-- The four numbers of a span. -/
def toJson (span : Span) : Value :=
  .object [Json.member "line" (.ofNat span.line), Json.member "column" (.ofNat span.column),
    Json.member "end_line" (.ofNat span.endLine),
    Json.member "end_column" (.ofNat span.endColumn)]

end Span

/-- The names of the fields of a node. -/
def Node.fieldNames : List String := ["tag", "children", "span"]

/-- The items of an array, each read by a function. -/
def itemsOf? {α : Type} (read : Value → Option α) : Value → Option (List α)
  | .array items => items.mapM read
  | _ => none

/-- A node from its record, its children read by a function. -/
def Node.ofRecord? (child : Value → Option Child) (value : Value) : Option Node :=
  match Json.recordFields? Node.fieldNames value with
  | some [some tag, children, span] =>
      match tag.text?, Json.defaulted? [] (itemsOf? child) children,
          Json.optional? Span.ofJson? span with
      | some tag, some children, some span => some ⟨tag, children, span⟩
      | _, _, _ => none
  | _ => none

/-- A child from its value, nested at most `depth` nodes deep. -/
def Child.ofJson? : Nat → Value → Option Child
  | _, .string units => (Json.unitsText? units).map fun s => .token (String.ofList s)
  | 0, _ => none
  | depth + 1, value => (Node.ofRecord? (Child.ofJson? depth) value).map Node.toChild

/-- A child of the root, which is two levels deep already. -/
def Child.ofRootItem? (value : Value) : Option Child :=
  if value.isSound && value.height + 2 ≤ Json.maxHeight then
    Child.ofJson? value.height value
  else none

/-- The tree that a JSON value writes. -/
def Node.ofJson? (value : Value) : Option Node := Node.ofRecord? Child.ofRootItem? value

/-- The tree that a JSON text writes. -/
def Node.read? (text : String) : Option Node := (Json.read? text).bind Node.ofJson?

/-- The members of a node: the span is left out when there is none. -/
def nodeJson (tag : String) (children : List Value) (span : Option Span) : Value :=
  .object (Json.member "tag" (.ofString tag) :: Json.member "children" (.array children) ::
    match span with
    | some span => [Json.member "span" span.toJson]
    | none => [])

mutual

/-- The value that writes a child. -/
def Child.toJson : Child → Value
  | .token text => .ofString text
  | .node tag children span => nodeJson tag (childrenJson children) span

/-- The values that write some children. -/
def childrenJson : List Child → List Value
  | [] => []
  | child :: rest => child.toJson :: childrenJson rest

end

/-- The value that writes a tree. -/
def Node.toJson (node : Node) : Value := node.toChild.toJson

/-- The JSON text of a tree. -/
def Node.print (node : Node) : String := node.toJson.compact

end CsvSchema
