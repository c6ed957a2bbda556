import CsvSchema.Reduction.Part
import CsvSchema.Diagnostic

/-!
# What stops a reduction

Each way in which a tree can fail to be a schema, with the code and the words of its diagnostic.
-/

namespace CsvSchema

/-- No path through a parse tree may have more nodes than this. -/
def maxDepth : Nat := 256

/-- Why a node does not reduce to a part. -/
inductive Fault where
  | unexpected (wanted found : PartKind)
  | leftOver (found : PartKind)
  | wrongCount (allowed : List Nat) (found : Nat)
  | tooFew (least found : Nat)
  | unknownNode (tag : String) (count : Nat)
  | tooDeep
  | rootIsNoSchema (found : PartKind)
  | emptyColumnName
  | unnamedReference
  | unknownDirective (tag : String)
  | repeatedDirective (directive : GlobalDirective)
  | repeatedColumnDirective (directive : ColumnDirective)
  | conflictingDirectives
  | badSeparator (raw : String)
  | badTotalColumns (raw : String)
  | unsupportedHash (name : String)
  /-- A text that is no regular expression.  What the reader of expressions says about it, which
  stands after a colon at the end of the message, is left out. -/
  | badPattern (raw : String)
  | badBound (rule raw : String)
  | crossedBounds (rule lower upper : String)
  | badLength (raw : String)
  | unknownFolderRule (raw : String)
  | repeatedColumn (name : String)
  | missingVersion
  | unsupportedVersion (raw : String)
  deriving Repr, DecidableEq

namespace Fault

/-- The number of a fault. -/
def code : Fault → Nat
  | unexpected _ _ => 100
  | leftOver _ => 100
  | wrongCount _ _ => 101
  | tooFew _ _ => 101
  | unknownNode _ _ => 102
  | tooDeep => 103
  | rootIsNoSchema _ => 103
  | emptyColumnName => 103
  | unnamedReference => 103
  | unknownDirective _ => 200
  | repeatedDirective _ => 201
  | repeatedColumnDirective _ => 201
  | conflictingDirectives => 202
  | badSeparator _ => 203
  | badTotalColumns _ => 203
  | unsupportedHash _ => 300
  | badPattern _ => 301
  | badBound _ _ => 302
  | crossedBounds _ _ _ => 302
  | badLength _ => 302
  | unknownFolderRule _ => 303
  | repeatedColumn _ => 304
  | missingVersion => 400
  | unsupportedVersion _ => 401

/-- What is said of a fault. -/
def message : Fault → String
  | unexpected wanted found => "expected " ++ wanted.text ++ ", found " ++ found.text
  | leftOver found => "unexpected " ++ found.text ++ " after the last expected child"
  | wrongCount allowed found =>
      "expected " ++ Text.joinWith " or " (allowed.map Decimal.natText) ++ " children, got " ++
        Decimal.natText found
  | tooFew least found =>
      "expected at least " ++ Decimal.natText least ++ " children, got " ++ Decimal.natText found
  | unknownNode tag count =>
      "unknown node '" ++ tag ++ "' with " ++ Decimal.natText count ++ " children"
  | tooDeep => "tree nesting exceeds " ++ Decimal.natText maxDepth ++ " levels"
  | rootIsNoSchema found => "tree root reduced to " ++ found.text ++ ", expected a schema"
  | emptyColumnName => "column name is empty"
  | unnamedReference => "column reference has no name"
  | unknownDirective tag => "unknown directive '" ++ tag ++ "'"
  | repeatedDirective directive => directive.keyword ++ " is declared more than once"
  | repeatedColumnDirective directive =>
      directive.keyword ++ " is declared more than once on one column"
  | conflictingDirectives => "@noHeader cannot be combined with @ignoreColumnNameCase"
  | badSeparator raw =>
      "@separator expects TAB or a single ASCII character, got " ++ Text.trimmed raw
  | badTotalColumns raw => "@totalColumns expects a positive integer, got " ++ raw
  | unsupportedHash name => HashAlgorithm.unsupported name
  | badPattern raw => "invalid regular expression " ++ Text.trimmed raw
  | badBound rule raw => "'" ++ Text.trimmed raw ++ "' is not a valid " ++ rule ++ " bound"
  | crossedBounds rule lower upper =>
      rule ++ " lower bound " ++ lower ++ " is greater than upper bound " ++ upper
  | badLength raw => "'" ++ Text.trimmed raw ++ "' is not a valid length"
  | unknownFolderRule raw => FolderRule.unknown raw
  | repeatedColumn name => "column '" ++ name ++ "' is defined more than once"
  | missingVersion => "schema does not declare a version"
  | unsupportedVersion raw => Version.unsupported raw

/-- What is suggested against a fault. -/
def suggestion : Fault → Option String
  | conflictingDirectives =>
      some "remove @ignoreColumnNameCase: without a header there are no names to compare"
  | badSeparator _ => some "write @separator ';' or @separator TAB"
  | unsupportedHash _ =>
      some ("supported algorithms are SHA-224, SHA-256, SHA-384, SHA-512, SHA-512/224 and " ++
        "SHA-512/256")
  | missingVersion => some "start the schema with `version 1.2`"
  | _ => none

/-- The node that a fault is about, if it is not the one that is being reduced. -/
def node : Fault → Option String
  | repeatedColumn _ => some "column_definition"
  | _ => none

/-- The diagnostic of a fault. -/
def diagnostic (fault : Fault) : Diagnostic :=
  ⟨fault.code, fault.message, fault.node, none, fault.suggestion⟩

end Fault

end CsvSchema
