import Timephrase.Rule

/-!
# Catalogs

A catalog is a list of rules.  Their order matters, since each rule works on what the rules before
it have left; rules out of use keep their place.

## Main definitions

* `Catalog`: the rules in order
* `Catalog.push`: one more rule at the end
* `Catalog.get?`: the first rule of a name
* `Catalog.setEnabled`: all rules of a name put into use or out of it
-/

namespace Timephrase

/-- Rules in order. -/
structure Catalog where
  rules : List Rule

namespace Catalog

/-- The catalog without rules. -/
def empty : Catalog := ⟨[]⟩

/-- A rule added at the end. -/
def push (c : Catalog) (r : Rule) : Catalog := ⟨c.rules ++ [r]⟩

/-- The number of rules. -/
def size (c : Catalog) : Nat := c.rules.length

/-- Whether there are no rules. -/
def isEmpty (c : Catalog) : Bool := c.rules.isEmpty

/-- The first rule of a name. -/
def get? (c : Catalog) (name : String) : Option Rule := c.rules.find? (·.name == name)

/-- Whether there is a rule of a name. -/
def has (c : Catalog) (name : String) : Bool := c.rules.any (·.name == name)

/-- Every rule of a name put into use or out of it. -/
def setEnabled (c : Catalog) (name : String) (enabled : Bool) : Catalog :=
  ⟨c.rules.map fun r => if r.name == name then r.withEnabled enabled else r⟩

@[simp] theorem rules_push (c : Catalog) (r : Rule) : (c.push r).rules = c.rules ++ [r] := rfl

@[simp] theorem size_setEnabled (c : Catalog) (name : String) (b : Bool) :
    (c.setEnabled name b).size = c.size := by
  simp [size, setEnabled]

end Catalog

end Timephrase
