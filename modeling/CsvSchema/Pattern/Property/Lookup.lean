import CsvSchema.Pattern.Property.Category
import CsvSchema.Pattern.Property.Script
import CsvSchema.Pattern.Property.SharedScript
import CsvSchema.Pattern.Property.Flag
import CsvSchema.Pattern.Property.Age
import CsvSchema.Pattern.Expression

/-!
# Looking up character properties

A property is asked for by one name, which may be that of a property, a category or a script, in
this order, or by the name of a property and the name of its value.
-/

namespace CsvSchema.Pattern

/-- The code points that are no characters. -/
def surrogates : CharSet := [⟨0xD800, 0xDFFF⟩]

/-- The characters of the categories with some names. -/
def categoriesOf (names : List String) : CharSet :=
  NamedSet.unionOf (categories.filter fun set => names.any set.names.contains)

/-- The characters without any category. -/
def unassigned : CharSet := CharSet.negate (CharSet.union (NamedSet.unionOf categories) surrogates)

/-- The categories that are groups of others: their names and the members. -/
def categoryGroups : List (List String × List String) := [
  (["lc", "casedletter"], ["lu", "ll", "lt"]),
  (["l", "letter"], ["lu", "ll", "lt", "lm", "lo"]),
  (["m", "mark", "combiningmark"], ["mn", "mc", "me"]),
  (["n", "number"], ["nd", "nl", "no"]),
  (["p", "punctuation", "punct"], ["pc", "pd", "ps", "pe", "pi", "pf", "po"]),
  (["s", "symbol"], ["sm", "sc", "sk", "so"]),
  (["z", "separator"], ["zs", "zl", "zp"])]

/-- The characters of the category with a name. -/
def category? (name : String) : Option CharSet :=
  if name = "any" then some [⟨0, maxCode⟩]
  else if name = "ascii" then some [⟨0, 0x7F⟩]
  else if name = "assigned" then some (CharSet.negate unassigned)
  else if ["cn", "unassigned"].contains name then some unassigned
  else if ["c", "other"].contains name then
    some (CharSet.union unassigned (categoriesOf ["cc", "cf", "co"]))
  else
    match categoryGroups.find? (·.1.contains name) with
    | some group => some (categoriesOf group.2)
    | none => (NamedSet.find? categories name).map NamedSet.chars

/-- The characters of the script with a name. -/
def script? (name : String) : Option CharSet := (NamedSet.find? scripts name).map NamedSet.chars

/-- The characters that are used in the script with a name. -/
def usedInScript? (name : String) : Option CharSet :=
  (NamedSet.find? scripts name).map fun script =>
    let here := sharedAmongScripts.filter fun set => set.names.any script.names.contains
    CharSet.union (CharSet.difference script.chars (NamedSet.unionOf sharedAmongScripts))
      (NamedSet.unionOf here)

/-- The characters that came with the version with a name or an earlier one. -/
def age? (name : String) : Option CharSet :=
  if (NamedSet.find? ages name).isSome then
    some (NamedSet.unionOf
      (ages.takeWhile (fun set => !set.names.contains name) ++
        (NamedSet.find? ages name).toList))
  else none

/-- The characters with a property that is asked for by one name.  Three short names
of properties mean categories. -/
def propertyNamed? (name : String) : Option CharSet :=
  let flag :=
    if ["cf", "sc", "lc"].contains name then none
    else (NamedSet.find? flagProperties name).map NamedSet.chars
  (flag.orElse fun _ => category? name).orElse fun _ => script? name

/-- The characters with a value of a property. -/
def propertyValued? (name value : String) : Option CharSet :=
  if ["gc", "generalcategory"].contains name then category? value
  else if ["sc", "script"].contains name then script? value
  else if ["scx", "scriptextensions"].contains name then usedInScript? value
  else if name = "age" then age? value
  else none

/-- The characters that a query asks for. -/
def PropertyQuery.chars? : PropertyQuery → Option CharSet
  | named name => propertyNamed? (comparedName name)
  | valued name value => propertyValued? (comparedName name) (comparedName value)

/-- The decimal digits of all scripts. -/
def digitChars : CharSet := categoriesOf ["nd"]

/-- The blanks of all scripts. -/
def spaceChars : CharSet := (propertyNamed? "whitespace").getD []

/-- The characters of words of all scripts: letters, marks, digits, connecting
punctuation and joiners. -/
def wordChars : CharSet :=
  CharSet.union ((propertyNamed? "alphabetic").getD [])
    (CharSet.union (categoriesOf ["mn", "mc", "me", "nd", "pc"])
      ((propertyNamed? "joincontrol").getD []))

end CsvSchema.Pattern
