import Timephrase.Calendar.Shift
import Timephrase.English.Vocabulary
import Timephrase.Rule

/-!
# Lengths of time

"for 2 hours", "for 30 min", "for 1.5h", "for 2 days".  The lengths of all such phrases add up.

## Main definitions

* `English.lengthAdded`: the meaning
* `English.duration`: the rule
-/

namespace Timephrase.English

/-- The duration with a length added. -/
def lengthAdded (d : Duration) (c : Captures) : Except Failure Duration := do
  let amount ← amount c
  let grain ← unit c
  inRange c (do
    let length ← grain.fixedLength?
    d.add? (← Duration.scaled? amount length))

/-- The rule for "for 2 hours" and "for 1.5h". -/
def duration : Except Failure Rule :=
  Rule.Draft.finish
    { name := "duration"
      source := r"\bfor\s(?P<amount>[0-9.]+)\s?" ++
        r"(?P<unit>s(?:ec(?:ond)?s?)?|m(?:in(?:ute)?s?)?|h(?:(?:ou)?rs?)?|d(?:ays?)?)\b"
      features := { Features.none with digits := true } }
    (.duration lengthAdded)

end Timephrase.English
