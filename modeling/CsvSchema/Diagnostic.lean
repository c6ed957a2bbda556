import CsvSchema.Tree.Json

/-!
# Diagnostics

Building a schema stops at the first problem and reports it as one diagnostic: a numbered code, a
message, the node that was being reduced, the place in the schema text, and perhaps a suggestion.
The range that a code lies in gives its category.
-/

namespace CsvSchema

/-- What kind of problem a diagnostic reports. -/
inductive Category where
  | shape
  | directive
  | expression
  | version
  deriving Repr, DecidableEq

namespace Category

/-- The word for a category. -/
def text : Category → String
  | shape => "syntax"
  | directive => "directive"
  | expression => "expression"
  | version => "version"

/-- The category of a code.  Codes outside the ranges count as problems of shape. -/
def ofCode (code : Nat) : Category :=
  if 200 ≤ code && code ≤ 299 then directive
  else if 300 ≤ code && code ≤ 399 then expression
  else if 400 ≤ code && code ≤ 499 then version
  else shape

end Category

/-- One problem that stopped a schema from being built. -/
structure Diagnostic where
  code : Nat
  message : String
  node : Option String
  span : Option Span
  suggestion : Option String
  deriving Repr, DecidableEq

namespace Diagnostic

/-- A diagnostic without a place. -/
def new (code : Nat) (message : String) : Diagnostic := ⟨code, message, none, none, none⟩

/-- The category of a diagnostic. -/
def category (d : Diagnostic) : Category := .ofCode d.code

/-- Note that a diagnostic passed a node on its way out.  The first node stays, and
so does the first span. -/
def atNode (d : Diagnostic) (tag : String) (span : Option Span) : Diagnostic :=
  { d with node := d.node <|> some tag, span := d.span <|> span }

/-- Attach a suggestion. -/
def withSuggestion (d : Diagnostic) (suggestion : String) : Diagnostic :=
  { d with suggestion := some suggestion }

/-- The text of a code, as in `E201`. -/
def codeText (d : Diagnostic) : String := "E" ++ Decimal.natText d.code

/-- A diagnostic in one line. -/
def text (d : Diagnostic) : String :=
  d.codeText ++ " [" ++ d.category.text ++ "] " ++ d.message

/-- A member that is left out when its value is absent. -/
def optionalMember (name : String) (value : Option Json.Value) :
    List (List Json.StringUnit × Json.Value) :=
  match value with
  | some value => [Json.member name value]
  | none => []

/-- The members of a diagnostic, absent ones left out. -/
def members (d : Diagnostic) : List (List Json.StringUnit × Json.Value) :=
  [Json.member "code" (.ofNat d.code), Json.member "category" (.ofString d.category.text),
    Json.member "message" (.ofString d.message)] ++
    optionalMember "node" (d.node.map .ofString) ++
    optionalMember "span" (d.span.map Span.toJson) ++
    optionalMember "suggestion" (d.suggestion.map .ofString)

end Diagnostic

end CsvSchema
