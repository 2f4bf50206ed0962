import Timephrase.Text.Ranges

/-!
# Tables of character properties

A table lists sets of characters under their names.  Names are compared loosely: letter case,
blanks, hyphens and underscores do not matter, nor does `is` in front of a name.

## Main definitions

* `Property.looseName`: what is compared of a name
* `Property.Table`: sets of characters under their names
* `Property.Table.find?`: the set of a name
-/

namespace Timephrase.Property

/-- Whether a name starts with `is`, in letters of any case. -/
def startsWithIs : List Char → Bool
  | first :: second :: _ => first.toLower == 'i' && second.toLower == 's'
  | _ => false

/-- What counts of the characters of a name: those of ASCII but blanks, hyphens and underscores, in
small letters. -/
def looseChars (cs : List Char) : List Char :=
  (cs.filter fun c => c.toNat < 128 && c != ' ' && c != '-' && c != '_').map Char.toLower

/-- What is compared of a name.  The name `isc` is one of its own, not `c` with `is` in front. -/
def looseName (name : String) : String :=
  let cs := name.toList
  if startsWithIs cs then
    let rest := looseChars (cs.drop 2)
    String.ofList (if rest = ['c'] then ['i', 's', 'c'] else rest)
  else String.ofList (looseChars cs)

/-- Sets of characters, each with its names, as they are compared, and its table text. -/
structure Table where
  entries : List (List String × String)

namespace Table

/-- The set that has a name, which is given as it is compared. -/
def find? (t : Table) (name : String) : Option Ranges :=
  (t.entries.find? fun e => e.1.contains name).map fun e => .ofText e.2

/-- The sets up to the one that has a name, taken together. -/
def upTo? (t : Table) (name : String) : Option Ranges :=
  if t.entries.any (·.1.contains name) then
    let before := t.entries.takeWhile fun e => !e.1.contains name
    (t.find? name).map fun last => before.foldr (fun e r => (Ranges.ofText e.2).union r) last
  else none

end Table

end Timephrase.Property
