import Timephrase.Calendar.Moment

/-!
# Time zones

A zone's clocks are ahead of universal time by an offset that has changed at known instants.  Where
clocks were set forward some local times do not exist, and where they were set back some were shown
twice.  A local time is taken to be the earliest instant at which the zone's clocks show it.

## Main definitions

* `Zone`: name, first offset and changes
* `Zone.offsetAt`: the offset in force at an instant
* `Zone.offsetShowing?`: the offset under which a local time was first shown
* `Zone.resolve?`: the earliest moment at which the zone's clocks show a local time
-/

namespace Timephrase

/-- A change of offset: from `instant` on, in seconds since 1970 of universal time, clocks are ahead
by `offset` seconds. -/
structure ZoneChange where
  instant : Int
  offset : Int
  deriving DecidableEq, Repr

namespace ZoneChange

/-- The instant from which the changes of the tables are counted, the start of the year 1800. -/
def tableStart : Int := -5364662400

/-- A change to `offset` seconds east, `n` seconds after the start of the tables. -/
def east (n offset : Nat) : ZoneChange := ⟨tableStart + n, offset⟩

/-- A change to `offset` seconds west, `n` seconds after the start of the tables. -/
def west (n offset : Nat) : ZoneChange := ⟨tableStart + n, -offset⟩

end ZoneChange

/-- A zone: its name, the offset before the first change, and the changes in order. -/
structure Zone where
  name : String
  first : Int
  changes : List ZoneChange
  deriving DecidableEq, Repr

namespace Zone

/-- The offset in force at an instant when `offset` was before some changes. -/
def offsetFrom (instant : Int) : Int → List ZoneChange → Int
  | offset, [] => offset
  | offset, c :: cs => if instant < c.instant then offset else offsetFrom instant c.offset cs

/-- The offset in force at an instant. -/
def offsetAt (z : Zone) (instant : Int) : Int := offsetFrom instant z.first z.changes

/-- The offset under which clocks first show `shown`, in seconds of the local clock, when `offset`
holds from the instant `since` up to some changes. -/
def showingFrom (shown : Int) : Option Int → Int → List ZoneChange → Option Int
  | since, offset, [] => if since.all (· + offset ≤ shown) then some offset else none
  | since, offset, c :: cs =>
    if since.all (· + offset ≤ shown) && shown < c.instant + offset then some offset
    else showingFrom shown (some c.instant) c.offset cs

/-- The offset under which the zone's clocks first show a local time. -/
def offsetShowing? (z : Zone) (shown : Int) : Option Int := showingFrom shown none z.first z.changes

/-- The earliest moment at which the zone's clocks show a local time. -/
def resolve? (z : Zone) (t : LocalTime) : Option Moment :=
  (z.offsetShowing? t.seconds).bind fun offset => Moment.ofLocal? t offset

end Zone

end Timephrase
