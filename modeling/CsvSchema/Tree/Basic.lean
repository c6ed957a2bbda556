import CsvSchema.Decimal.Natural

/-!
# Parse trees

A schema arrives as the tree that a grammar-driven parser made of it.  A node has the name of its
grammar rule, its children in order, and perhaps the place in the schema text that it came from; a
child is a token of raw text or another node.
-/

namespace CsvSchema

/-- Where a node stands in the schema text.  Lines and columns count from one. -/
structure Span where
  line : Nat
  column : Nat
  endLine : Nat
  endColumn : Nat
  deriving Repr, DecidableEq

namespace Span

/-- The whole of a line that is `size` bytes long. -/
def ofLine (line size : Nat) : Span := ⟨line, 1, line, size + 1⟩

/-- The start of a span, as in `3:1`. -/
def text (span : Span) : String :=
  Decimal.natText span.line ++ ":" ++ Decimal.natText span.column

end Span

/-- A child of a node. -/
inductive Child where
  | token (text : String)
  | node (tag : String) (children : List Child) (span : Option Span)

/-- A node of a parse tree. -/
structure Node where
  tag : String
  children : List Child
  span : Option Span

/-- A node as the child of another. -/
def Node.toChild (node : Node) : Child := .node node.tag node.children node.span

end CsvSchema
