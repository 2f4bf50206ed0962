import Timephrase.Catalog
import Timephrase.English.AtTime
import Timephrase.English.DatePhrase
import Timephrase.English.DayWord
import Timephrase.English.ForPhrase
import Timephrase.English.InPhrase
import Timephrase.English.ZonePhrase

/-!
# The English catalog

The words that set the day come before the time of day, which is laid onto whatever day it is, and
the zone comes last, when what the clock shows is settled.

## Main definitions

* `English.rules`: the eight rules in order
* `English.catalog`: the catalog
-/

namespace Timephrase.English

/-- The rules in order. -/
def rules : List (Except Failure Rule) :=
  [yesterday, tomorrow, today, atTime, duration, date, inOffset, timezone]

/-- The catalog of the rules, if all patterns can be read. -/
def catalog : Except Failure Catalog := (rules.mapM id).map fun rules => ⟨rules⟩

/-- The rule of a name. -/
def rule? (name : String) : Option (Except Failure Rule) :=
  (names.zip rules).lookup name
where
  /-- The names of the rules in order. -/
  names : List String :=
    ["yesterday", "tomorrow", "today", "at time", "duration", "date", "in offset", "timezone"]

end Timephrase.English
