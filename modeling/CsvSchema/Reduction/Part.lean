import CsvSchema.Schema.Basic
import CsvSchema.Directive

/-!
# Parts of a schema

A parse tree is reduced from the leaves up.  What a node reduces to is a part of the schema, and a
node is made of the parts that its children reduce to.
-/

namespace CsvSchema

/-- A directive for the whole file with its value. -/
inductive GlobalSetting where
  | separator (mark : Char)
  | quoted
  | totalColumns (total : Nat)
  | permitEmpty
  | noHeader
  | ignoreColumnNameCase
  deriving Repr, DecidableEq

namespace GlobalSetting

/-- The directive that makes a setting. -/
def directive : GlobalSetting → GlobalDirective
  | separator _ => .separator
  | quoted => .quoted
  | totalColumns _ => .totalColumns
  | permitEmpty => .permitEmpty
  | noHeader => .noHeader
  | ignoreColumnNameCase => .ignoreColumnNameCase

/-- The settings with one of them changed. -/
def apply (settings : FileSettings) : GlobalSetting → FileSettings
  | separator mark => { settings with separator := mark }
  | quoted => { settings with quoted := true }
  | totalColumns total => { settings with totalColumns := some total }
  | permitEmpty => { settings with permitEmpty := true }
  | noHeader => { settings with noHeader := true }
  | ignoreColumnNameCase => { settings with ignoreColumnNameCase := true }

end GlobalSetting

/-- The settings of a column with one of them turned on. -/
def ColumnDirective.apply (settings : ColumnSettings) : ColumnDirective → ColumnSettings
  | optional => { settings with optional := true }
  | matchIsFalse => { settings with matchIsFalse := true }
  | ignoreCase => { settings with ignoreCase := true }
  | warning => { settings with warning := true }

/-- What a node or a token reduces to. -/
inductive Part where
  | token (text : String)
  | comment
  | setting (setting : GlobalSetting)
  | settings (settings : FileSettings)
  | prolog (version : Version) (settings : FileSettings)
  | body (columns : List ColumnDefinition) (slots : Nat)
  | column (column : ColumnDefinition)
  | rule (rule : ColumnRule)
  | columnDirective (directive : ColumnDirective)
  | columnSettings (settings : ColumnSettings)
  | check (check : Check)
  | clause (checks : List Check)
  | switchCase (switchCase : SwitchCase)
  | operand (operand : Operand)
  | schema (schema : Schema)

/-- The kinds of parts that are told apart in diagnostics. -/
inductive PartKind where
  | token
  | comment
  | globalDirective
  | globalDirectives
  | prolog
  | body
  | columnDefinition
  | columnRule
  | columnDirective
  | columnDirectives
  | check
  | clause
  | switchCase
  | operand
  | columnReference
  | schema
  deriving Repr, DecidableEq

/-- The words for a kind of part. -/
def PartKind.text : PartKind → String
  | token => "token"
  | comment => "comment"
  | globalDirective => "global directive"
  | globalDirectives => "global directives"
  | prolog => "prolog"
  | body => "body"
  | columnDefinition => "column definition"
  | columnRule => "column rule"
  | columnDirective => "column directive"
  | columnDirectives => "column directives"
  | check => "validating expression"
  | clause => "if clause"
  | switchCase => "switch case"
  | operand => "data expression"
  | columnReference => "column reference"
  | schema => "schema"

/-- The kind of a part.  A reference to a column is an operand like any other. -/
def Part.kind : Part → PartKind
  | token _ => .token
  | comment => .comment
  | setting _ => .globalDirective
  | settings _ => .globalDirectives
  | prolog _ _ => .prolog
  | body _ _ => .body
  | column _ => .columnDefinition
  | rule _ => .columnRule
  | columnDirective _ => .columnDirective
  | columnSettings _ => .columnDirectives
  | check _ => .check
  | clause _ => .clause
  | switchCase _ => .switchCase
  | operand _ => .operand
  | schema _ => .schema

/-- Whether a part is a comment, which no node is made of. -/
def Part.isComment : Part → Bool
  | comment => true
  | _ => false

end CsvSchema
