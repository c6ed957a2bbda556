import CsvSchema.Collection.KeyOrder
import CsvSchema.Text.Split

/-!
# Paths

A path is text, and what it says is the list of its parts: repeated and trailing slashes do not
count, nor does a dot unless the path begins with it.  Nothing is looked up, so a part that leads
up stays.  Paths are compared by their parts, and joining works on the text.
-/

namespace CsvSchema

/-- One part of a path. -/
inductive PathPart where
  | root
  | here
  | up
  | name (text : List Char)
  deriving Repr, DecidableEq

namespace PathPart

/-- A code for each part: the special ones come first, names by their characters. -/
def code : PathPart → List Nat
  | root => [0]
  | here => [1]
  | up => [2]
  | name text => 3 :: text.map Char.toNat

theorem code_injective {a b : PathPart} (h : a.code = b.code) : a = b := by
  -- The first numbers tell the kinds of parts apart.
  cases a <;> cases b <;> first | rfl | (simp [code] at h; done) | skip
  case name.name text₁ text₂ =>
    rw [(List.map_inj_right fun _ _ hcode => Char.toNat_inj.1 hcode).1 (List.cons.inj h).2]

instance : KeyOrder PathPart := .ofCode code code_injective

/-- A part as it is written. -/
def chars : PathPart → List Char
  | root => ['/']
  | here => ['.']
  | up => ['.', '.']
  | name text => text

/-- The part that a segment between slashes stands for, inside a path. -/
def ofSegment? (segment : List Char) : Option PathPart :=
  if segment = [] || segment = ['.'] then none
  else if segment = ['.', '.'] then some up
  else some (name segment)

end PathPart

/-- A path. -/
structure Path where
  chars : List Char
  deriving Repr, DecidableEq

namespace Path

/-- The path that a string writes. -/
def ofString (s : String) : Path := ⟨s.toList⟩

/-- The text of a path. -/
def text (p : Path) : String := String.ofList p.chars

/-- Whether a path starts at the root. -/
def isAbsolute (p : Path) : Bool := p.chars.head? == some '/'

/-- The parts of a path. -/
def parts (p : Path) : List PathPart :=
  let segments := Text.splitOn '/' p.chars
  let rest := segments.filterMap PathPart.ofSegment?
  if p.isAbsolute then .root :: rest
  else if segments.head? = some ['.'] then .here :: rest
  else rest

/-- A path that continues another one.  An absolute path stands for itself. -/
def join (base rest : Path) : Path :=
  if rest.isAbsolute then rest
  else if base.chars = [] || base.chars.getLast? = some '/' then ⟨base.chars ++ rest.chars⟩
  else ⟨base.chars ++ '/' :: rest.chars⟩

/-- The parts of `p` below `base`, if its parts begin with those of `base`. -/
def below? (base p : Path) : Option (List PathPart) := Text.dropStart? base.parts p.parts

/-- Whether some part of a path leads up. -/
def leadsUp (p : Path) : Bool := p.parts.contains .up

/-- The parts of the folder that holds a path.  Neither the root nor the empty
path lies in a folder. -/
def parentParts? (parts : List PathPart) : Option (List PathPart) :=
  match parts.getLast? with
  | none => none
  | some .root => none
  | some _ => some parts.dropLast

/-- The name of the last part. -/
def lastName? (parts : List PathPart) : Option (List Char) :=
  match parts.getLast? with
  | some (.name text) => some text
  | _ => none

end Path

end CsvSchema
