/-
Classes of characters by name: categories, scripts, ages and further properties.

A name is looked up without regard to case, spaces, dashes and underscores, and without `is` in front. A class has one
name (`\p` of `Lu`) or is the value of a property (`script=greek`).
-/
import Templating.Text.CategoryTable
import Templating.Text.ScriptTable
import Templating.Text.PropertyTable
import Templating.Text.CharSet

namespace Templating.Text

/-- the form in which a name is looked up -/
def looseName (name : List Char) : String :=
  let kept (letters : List Char) : String :=
    String.ofList ((letters.filter fun c => c.toNat < 0x80 && c ∉ [' ', '_', '-']).map Char.toLower)
  match name with
  | i :: s :: rest =>
    if (i = 'i' ∨ i = 'I') ∧ (s = 's' ∨ s = 'S') then
      if kept rest = "c" then "isc" else kept rest
    else kept name
  | _ => kept name

/-! ## categories -/

/-- the category of a name, one of the tables -/
def tableCategory? (name : String) : Option CharSet :=
  (categoryTables.find? (·.names.contains name)).map fun table => .ofTable table.members

/-- the characters that have a category -/
def assigned : CharSet :=
  .unionAll (categoryTables.map fun table => .ofTable table.members)

/-- the characters of some categories, each a table or a group of tables -/
def categoryUnion (names : List String) : CharSet :=
  .unionAll (names.flatMap fun name =>
    match categoryGroups.find? (·.1.contains name) with
    | some (_, members) => members.filterMap tableCategory?
    | none => (tableCategory? name).toList)

/-- the category of a name; a category may also be a group of others -/
def category? (name : String) : Option CharSet :=
  if name = "any" then some .all
  else if name = "assigned" then some assigned
  else if name = "ascii" then some (.between '\x00' '\x7f')
  else if name = "cn" ∨ name = "unassigned" then some assigned.complement
  else if name = "c" ∨ name = "other" then some (assigned.complement.union (categoryUnion ["cc", "cf", "co"]))
  else if categoryGroups.any (·.1.contains name) then some (categoryUnion [name])
  else tableCategory? name

/-! ## scripts, ages and other properties -/

/-- the characters of a script -/
def script? (name : String) : Option CharSet :=
  (scriptTables.find? (·.names.contains name)).map fun table => .ofTable table.members

/-- the characters that are used with a script -/
def scriptExtension? (name : String) : Option CharSet :=
  (scriptTables.find? (·.names.contains name)).map fun table =>
    ((CharSet.ofTable table.members).union (.ofTable table.added)).diff (.ofTable table.removed)

/-- the tables up to the one of a name -/
def tablesUpTo? (name : String) : List NamedTable → Option (List NamedTable)
  | [] => none
  | table :: rest => if table.names.contains name then some [table] else (tablesUpTo? name rest).map (table :: ·)

/-- the characters that an edition of the standard knows -/
def age? (name : String) : Option CharSet :=
  (tablesUpTo? name ageTables).map fun tables => .unionAll (tables.map fun table => .ofTable table.members)

/-- the characters with a property -/
def property? (name : String) : Option CharSet :=
  (propertyTables.find? (·.names.contains name)).map fun table =>
    ((categoryUnion table.categories).union (.ofTable table.added)).diff (.ofTable table.removed)

/-- the class of a name that stands alone; `sc` and `lc` are categories though properties have these names too -/
def namedClass? (name : List Char) : Option CharSet :=
  let name := looseName name
  ((property? name).or (category? name)).or (script? name)

/-- the class of the characters for which a property has a value -/
def valueClass? (property value : List Char) : Option CharSet :=
  let property := looseName property
  let value := looseName value
  if property = "gc" ∨ property = "generalcategory" then category? value
  else if property = "sc" ∨ property = "script" then script? value
  else if property = "scx" ∨ property = "scriptextensions" then scriptExtension? value
  else if property = "age" then age? value
  else none

/-! ## the classes that have letters of their own -/

/-- white space -/
def spaceSet : CharSet := (property? "space").getD .empty

/-- decimal digits of any script -/
def digitSet : CharSet := categoryUnion ["nd"]

/-- what words are made of: letters, marks, decimal digits, joining punctuation -/
def wordSet : CharSet :=
  .unionAll [(property? "alpha").getD .empty, categoryUnion ["m", "nd", "pc"], (property? "joinc").getD .empty]

/-- what words are made of in ASCII -/
def asciiWordSet : CharSet :=
  .unionAll [.between '0' '9', .between 'A' 'Z', .single '_', .between 'a' 'z']

end Templating.Text
