import Timephrase.Calendar.Shift
import Timephrase.English.Vocabulary
import Timephrase.Rule

/-!
# Shifts

"in 2 days", "in 2.5 minutes", "in 3 weeks", "in 1 year".  The time moves on by the amount.  Months
and years take whole amounts only.

## Main definitions

* `English.shifted`: the meaning
* `English.inOffset`: the rule
-/

namespace Timephrase.English

/-- The time moved on by the amount of a phrase. -/
def shifted (t : Moment) (c : Captures) : Except Failure Moment := do
  let amount ← amount c
  let grain ← unit c
  if grain.isCalendric && !amount.isWhole then .error (c.failure "amount" .notWhole)
  else inRange c (t.shift? amount grain)

/-- The rule for "in 2 days" and "in 1 year". -/
def inOffset : Except Failure Rule :=
  Rule.Draft.finish
    { name := "in offset"
      source := r"\bin\s(?P<amount>[0-9.]+)\s?" ++
        r"(?P<unit>s(?:ec(?:ond)?s?)?|m(?:in(?:ute)?s?)?|h(?:(?:ou)?rs?)?|d(?:ays?)?" ++
        r"|w(?:(?:ee)?ks?)?|mo(?:nths?)?|y(?:(?:ea)?rs?)?)\b"
      features := { Features.none with digits := true } }
    (.time fun _ t c => shifted t c)

end Timephrase.English
