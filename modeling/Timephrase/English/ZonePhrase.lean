import Timephrase.Rule
import Timephrase.Zone.Code

/-!
# Times in a zone

"at 3pm PST", "at 9 CET".  What the clock shows is read as a time in the zone.  A code is written in
capitals and follows a time of day, so that other words in capitals are left alone.

## Main definitions

* `English.inZone`: the meaning
* `English.timezone`: the rule
-/

namespace Timephrase.English

/-- The moment at which the clocks of a zone first show what the clock shows. -/
def inZone (t : Moment) (c : Captures) : Except Failure Moment := do
  let zone ← ZoneCode.lookup (c.text "tz")
  match zone.resolve? t.localTime with
  | some moment => .ok moment
  | none => .error (.nonexistentLocalTime t.localTime zone.name)

/-- The rule for "at 3pm PST" and "at 9 CET". -/
def timezone : Except Failure Rule :=
  Rule.Draft.finish
    { name := "timezone"
      source := r"\b[aA][tT]\s[0-9]{1,2}(?:[.:,]?[0-9]{2})?\s?(?:[aApP][mM])?\s?(?P<tz>" ++
        ZoneCode.source ++ r")\b"
      anyCase := false
      features := { Features.none with digits := true, uppercase := true } }
    (.time fun _ t c => inZone t c)

end Timephrase.English
