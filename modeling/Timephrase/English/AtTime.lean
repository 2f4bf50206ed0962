import Timephrase.Calendar.Shift
import Timephrase.English.Vocabulary
import Timephrase.Rule

/-!
# Times of day

"at 3pm", "at 15:30", "at 6 am", "at 9.45".  The hour and the minute are laid onto the day that the
time lies in; seconds stay, and so does the minute if none is written.  "pm" adds twelve to whatever
hour is written, so that "at 12pm" is the midnight after.

## Main definitions

* `English.timeOfDay`: the meaning
* `English.atTime`: the rule
-/

namespace Timephrase.English

/-- The time with another hour and minute on its own day. -/
def timeOfDay (t : Moment) (c : Captures) : Except Failure Moment := do
  let hour ← c.require IntegerRange.signed64.read "hour"
  let minute ← c.read? IntegerRange.signed64.read "minute"
  let hour := if c.get? "meridiem" = some "pm" then hour + 12 else hour
  let shown := t.localTime
  inRange c (Moment.ofCarried? shown.date.year shown.date.month shown.date.day hour
    (minute.getD shown.minute) shown.second shown.nanos t.offset)

/-- The rule for "at 3pm" and "at 15:30". -/
def atTime : Except Failure Rule :=
  Rule.Draft.finish
    { name := "at time"
      source :=
        r"\bat\s(?P<hour>[0-9]{1,2})(?:[.:,]?(?P<minute>[0-9]{2}))?\s?(?P<meridiem>am|pm)?\b"
      features := { Features.none with digits := true } }
    (.time fun _ t c => timeOfDay t c)

end Timephrase.English
