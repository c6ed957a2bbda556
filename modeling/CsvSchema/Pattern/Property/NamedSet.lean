import CsvSchema.Pattern.CharSet

/-!
# Named sets of characters

The sets that the Unicode standard defines are kept as tables with all the names that each of them
goes by.  Names are compared without letter case, blanks, hyphens and underscores, and without an
`is` in front.
-/

namespace CsvSchema.Pattern

/-- A set of characters with its names, in which nothing is left that comparison ignores. -/
structure NamedSet where
  names : List String
  table : String

namespace NamedSet

/-- The characters of a set. -/
def chars (set : NamedSet) : CharSet := CharSet.ofTable (Text.CodeSet.read set.table)

/-- The set with a name. -/
def find? (sets : List NamedSet) (name : String) : Option NamedSet :=
  sets.find? (·.names.contains name)

/-- The characters of all of some sets. -/
def unionOf (sets : List NamedSet) : CharSet :=
  CharSet.ofTable (sets.flatMap fun set => Text.CodeSet.read set.table)

end NamedSet

/-- What counts of a name: its ASCII characters in lower case, without separators. -/
def plainName (name : List Char) : List Char :=
  ((name.filter fun c => c.toNat < 0x80).filter fun c => c != ' ' && c != '_' && c != '-').map
    Char.toLower

/-- A name as it is compared.  The name `isc` alone would lose its meaning without
its start. -/
def comparedName (name : List Char) : String :=
  let named := match name with
    | a :: b :: rest =>
        if a.toLower == 'i' && b.toLower == 's' then
          let plain := plainName rest
          if plain == ['c'] then ['i', 's', 'c'] else plain
        else plainName name
    | _ => plainName name
  String.ofList named

end CsvSchema.Pattern
