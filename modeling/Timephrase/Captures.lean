import Timephrase.Failure
import Timephrase.Number.Decimal
import Timephrase.Pattern.Match
import Timephrase.Text.Lowercase
import Timephrase.Text.Utf8

/-!
# Captures

What a rule gets to see of a match: its own name, the text of the whole match and the texts of the
named groups, all in small letters.  A group that took no part in the match has no text, which is
not the same as an empty one, although both read as empty.

## Main definitions

* `Captures`: the texts
* `Captures.ofMatch`, `Captures.ofPairs`: captures of a match, and captures given outright
* `Captures.get?`, `Captures.text`, `Captures.has`: the text of a group
* `Captures.read?`, `Captures.require`: the number that a group writes
-/

namespace Timephrase

/-- The texts of a match.  Of two entries for one group the first counts. -/
structure Captures where
  rule : String
  whole : String
  groups : List (String × Option String)
  deriving DecidableEq, Repr

namespace Captures

/-- The captures of a match of a pattern in a text. -/
def ofMatch (rule : String) (pattern : Pattern) (text : String) (m : Pattern.Match) : Captures where
  rule := rule
  whole := (slice m.span).getD ""
  groups := pattern.names.map fun (name, index) => (name, (m.group? index).bind slice)
where
  /-- The piece of the text that a span covers, in small letters. -/
  slice (s : Span) : Option String := (Utf8.slice? text s.start s.stop).map Lowercase.lowercase

/-- Captures with the given texts of groups, of which the last given for a group counts. -/
def ofPairs (rule : String) (pairs : List (String × Option String)) : Captures where
  rule := rule
  whole := ""
  groups := (pairs.map fun (name, value) => (name, value.map Lowercase.lowercase)).reverse

/-- The text of a group that took part in the match. -/
def get? (c : Captures) (name : String) : Option String := (c.groups.lookup name).join

/-- The text of a group, empty if it took no part. -/
def text (c : Captures) (name : String) : String := (c.get? name).getD ""

/-- Whether a group took part with a text that is not empty. -/
def has (c : Captures) (name : String) : Bool := c.text name != ""

/-- The failure to make sense of a group. -/
def failure (c : Captures) (name : String) (fault : CaptureFault) : Failure :=
  .capture c.rule name (c.text name) fault

/-- The number that a group writes, if the group has a text at all. -/
def read? {α : Type} (c : Captures) (reader : String → Except NumberFault α) (name : String) :
    Except Failure (Option α) :=
  if c.has name then
    match reader (c.text name) with
    | .ok a => .ok (some a)
    | .error fault => .error (c.failure name (.number fault))
  else .ok none

/-- The number that a group writes, which has to have a text. -/
def require {α : Type} (c : Captures) (reader : String → Except NumberFault α) (name : String) :
    Except Failure α := do
  match ← c.read? reader name with
  | some a => .ok a
  | none => .error (.capture c.rule name "" .missing)

/-- The floating-point number that a text writes. -/
def float (text : String) : Except NumberFault Binary64 :=
  match Binary64.ofText? text with
  | some x => .ok x
  | none => .error .invalidFloat

@[simp] theorem rule_ofMatch (rule : String) (pattern : Pattern) (text : String)
    (m : Pattern.Match) : (ofMatch rule pattern text m).rule = rule := rfl

@[simp] theorem rule_ofPairs (rule : String) (pairs : List (String × Option String)) :
    (ofPairs rule pairs).rule = rule := rfl

end Captures

end Timephrase
