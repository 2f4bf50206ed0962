import Timephrase.Calendar.Shift
import Timephrase.English.Vocabulary
import Timephrase.Rule

/-!
# Dates

"on oct 26, 1985", "26 oct 1985", "december 3", "on 5 may".  The day may stand before the month or
after it, and the one after counts.  What is not written stays as it is; a day past the end of the
month falls into the next.  The pattern knows ASCII alone, as does the feature that it asks for.

## Main definitions

* `English.calendarDate`: the meaning
* `English.date`: the rule
-/

namespace Timephrase.English

/-- The time of day on another date. -/
def calendarDate (t : Moment) (c : Captures) : Except Failure Moment := do
  let month ← match month? (c.text "month") with
    | some month => .ok month
    | none => .error (c.failure "month" .unknownMonth)
  let shown := t.localTime
  let day ← match ← c.read? IntegerRange.signed64.read "day_after" with
    | some day => .ok day
    | none => do
      let day ← c.read? IntegerRange.signed64.read "day"
      .ok (day.getD shown.date.day)
  let year ← c.read? IntegerRange.signed32.read "year"
  inRange c (Moment.ofCarried? (year.getD shown.date.year) month day shown.hour shown.minute
    shown.second shown.nanos t.offset)

/-- The rule for "on oct 26, 1985" and "26 oct". -/
def date : Except Failure Rule :=
  Rule.Draft.finish
    { name := "date"
      source := r"\b(?:on\s?)?(?:(?P<day>[0-9]{1,2})\s?)?" ++
        r"(?P<month>jan(?:uary)?|feb(?:ruary)?|mar(?:ch)?|apr(?:il)?|may|june?|july?|aug(?:ust)?" ++
        r"|sep(?:t(?:ember)?)?|oct(?:ober)?|nov(?:ember)?|dec(?:ember)?)\b" ++
        r"(?:\s(?P<day_after>[0-9]{1,2})\b)?" ++
        r"(?:[,\s]+(?P<year>[0-9]{4})\b)?"
      unicode := false
      features := { Features.none with monthish := true } }
    (.time fun _ t c => calendarDate t c)

end Timephrase.English
