import Timephrase.Calendar.Shift
import Timephrase.English.Vocabulary
import Timephrase.Rule

/-!
# Yesterday, tomorrow and today

Each of these words sets the time to the start of a day, whatever it was before.

## Main definitions

* `English.yesterday`, `English.tomorrow`, `English.today`: the rules
-/

namespace Timephrase.English

/-- The start of the day that is some days after today. -/
def dayFromToday (days : Int) (context : Context) (c : Captures) : Except Failure Moment :=
  inRange c (context.today.shiftWhole? days .day)

/-- The rule for "yesterday". -/
def yesterday : Except Failure Rule :=
  Rule.Draft.finish { name := "yesterday", source := r"\byesterday\b" }
    (.time fun context _ c => dayFromToday (-1) context c)

/-- The rule for "tomorrow". -/
def tomorrow : Except Failure Rule :=
  Rule.Draft.finish { name := "tomorrow", source := r"\btomorrow\b" }
    (.time fun context _ c => dayFromToday 1 context c)

/-- The rule for "today". -/
def today : Except Failure Rule :=
  Rule.Draft.finish { name := "today", source := r"\btoday\b" }
    (.time fun context _ _ => .ok context.today)

end Timephrase.English
