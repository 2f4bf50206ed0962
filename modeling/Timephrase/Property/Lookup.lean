import Timephrase.Property.Table.Age
import Timephrase.Property.Table.Binary
import Timephrase.Property.Table.Break
import Timephrase.Property.Table.Category
import Timephrase.Property.Table.Script
import Timephrase.Property.Table.ScriptExtension

/-!
# Looking up character properties

A set of characters is asked for by one name, of a property that characters have or lack, a general
category or a script, or by the name of a property and one of its values.

## Main definitions

* `Property.category?`, `Property.script?`, `Property.usedIn?`, `Property.age?`: sets by kind
* `Property.named?`: the set of one name
* `Property.valued?`: the set of a property and a value
-/

namespace Timephrase.Property

/-- The categories that stand for several, with the names of those that they are made of. -/
def categoryGroups : List (List String × List String) := [
  (["lc", "casedletter"], ["lu", "ll", "lt"]),
  (["l", "letter"], ["lu", "ll", "lt", "lm", "lo"]),
  (["m", "mark", "combiningmark"], ["mn", "mc", "me"]),
  (["n", "number"], ["nd", "nl", "no"]),
  (["p", "punctuation", "punct"], ["pc", "pd", "ps", "pe", "pi", "pf", "po"]),
  (["s", "symbol"], ["sm", "sc", "sk", "so"]),
  (["z", "separator"], ["zs", "zl", "zp"]),
  (["c", "other"], ["cc", "cf", "cn", "co"]),
  (["assigned"], ["lu", "ll", "lt", "lm", "lo", "mn", "mc", "me", "nd", "nl", "no", "pc", "pd", "ps",
    "pe", "pi", "pf", "po", "sm", "sc", "sk", "so", "zs", "zl", "zp", "cc", "cf", "co"])]

/-- The characters of several categories. -/
def categories (names : List String) : Ranges :=
  (names.filterMap Category.table.find?).foldr Ranges.union ⟨[]⟩

/-- The characters of a general category or of several that have a name together. -/
def category? (name : String) : Option Ranges :=
  if name = "any" then some ⟨[(0, 0x10FFFF)]⟩
  else if name = "ascii" then some ⟨[(0, 0x7F)]⟩
  else
    match categoryGroups.find? fun g => g.1.contains name with
    | some (_, members) => some (categories members)
    | none => Category.table.find? name

/-- The characters of a script. -/
def script? (name : String) : Option Ranges := Script.table.find? name

/-- The characters that a script is written with. -/
def usedIn? (name : String) : Option Ranges :=
  (ScriptExtension.table.find? name).orElse fun _ => script? name

/-- The characters of a version and all before it. -/
def age? (version : String) : Option Ranges := Age.table.upTo? version

/-- The names of properties that are not also names of categories, although they are written like
them: `cf`, `lc` and `sc` are categories. -/
def isCategoryFirst (name : String) : Bool := ["cf", "lc", "sc"].contains name

/-- The set of one name. -/
def named? (name : String) : Option Ranges :=
  let name := looseName name
  if isCategoryFirst name then category? name
  else
    (Binary.table.find? name).orElse fun _ => (category? name).orElse fun _ => script? name

/-- The set of a property and one of its values. -/
def valued? (property value : String) : Option Ranges :=
  let value := looseName value
  match looseName property with
  | "gc" | "generalcategory" => category? value
  | "sc" | "script" => script? value
  | "scx" | "scriptextensions" => usedIn? value
  | "age" => age? value
  | "gcb" | "graphemeclusterbreak" => Break.grapheme.find? value
  | "wb" | "wordbreak" => Break.word.find? value
  | "sb" | "sentencebreak" => Break.sentence.find? value
  | _ => none

end Timephrase.Property
