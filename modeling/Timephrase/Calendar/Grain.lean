import Timephrase.Duration

/-!
# Calendar units

## Main definitions

* `Grain`: the seven units, from the second to the year
* `Grain.fixedLength?`: the length of a unit, for those that have one
-/

namespace Timephrase

/-- A unit of the calendar or the clock. -/
inductive Grain
  | second
  | minute
  | hour
  | day
  | week
  | month
  | year
  deriving DecidableEq, Repr

namespace Grain

/-- The length of a unit; months and years have none of their own. -/
def fixedLength? : Grain → Option Duration
  | second => some .second
  | minute => some .minute
  | hour => some .hour
  | day => some .day
  | week => some .week
  | month => none
  | year => none

/-- Whether a unit is reckoned in months. -/
def isCalendric : Grain → Bool
  | month | year => true
  | _ => false

/-- The name of a unit. -/
def name : Grain → String
  | second => "second"
  | minute => "minute"
  | hour => "hour"
  | day => "day"
  | week => "week"
  | month => "month"
  | year => "year"

/-- Every unit, from the shortest to the longest. -/
def all : List Grain := [second, minute, hour, day, week, month, year]

theorem fixedLength?_eq_none_iff (g : Grain) : g.fixedLength? = none ↔ g.isCalendric = true := by
  cases g <;> simp [fixedLength?, isCalendric]

end Grain

end Timephrase
