import Timephrase.Calendar.Grain
import Timephrase.Captures

/-!
# English words for units and months

## Main definitions

* `Grain.ofUnit?`: the unit that a word starts to spell
* `English.month?`: the month that a name starts to spell
* `English.amount`, `English.unit`: the number and the unit of a phrase
-/

namespace Timephrase

/-- The unit that a word in small letters starts to spell.  Words in `m` are minutes, but those in
`mo` are months. -/
def Grain.ofUnit? (word : String) : Option Grain :=
  match word.toList with
  | 'm' :: 'o' :: _ => some .month
  | 's' :: _ => some .second
  | 'm' :: _ => some .minute
  | 'h' :: _ => some .hour
  | 'd' :: _ => some .day
  | 'w' :: _ => some .week
  | 'y' :: _ => some .year
  | _ => none

namespace English

/-- The months by the three letters that their names start with. -/
def months : List (List Char × Nat) := [
  (['j', 'a', 'n'], 1), (['f', 'e', 'b'], 2), (['m', 'a', 'r'], 3), (['a', 'p', 'r'], 4),
  (['m', 'a', 'y'], 5), (['j', 'u', 'n'], 6), (['j', 'u', 'l'], 7), (['a', 'u', 'g'], 8),
  (['s', 'e', 'p'], 9), (['o', 'c', 't'], 10), (['n', 'o', 'v'], 11), (['d', 'e', 'c'], 12)]

/-- The number of the month that a name starts to spell, in letters of any case. -/
def month? (name : String) : Option Nat :=
  months.lookup ((name.toList.take 3).map Char.toLower)

/-- The number of a phrase. -/
def amount (c : Captures) : Except Failure Binary64 := c.require Captures.float "amount"

/-- The unit of a phrase. -/
def unit (c : Captures) : Except Failure Grain :=
  match Grain.ofUnit? (c.text "unit") with
  | some grain => .ok grain
  | none => .error (c.failure "unit" .unknownUnit)

/-- The result of arithmetic that may leave the supported range. -/
def inRange {α : Type} (c : Captures) : Option α → Except Failure α
  | some a => .ok a
  | none => .error (.outOfRange c.rule)

end English

end Timephrase
