import Timephrase.Calendar.Moment
import Timephrase.Calendar.Grain
import Timephrase.Number.Binary64

/-!
# Calendar arithmetic

Moments are moved by whole or fractional amounts of a unit, and built from calendar fields that may
be too large for their place.  Units with a fixed length move the universal reading.  Months and
years keep the local day of the month and the time of day, and a day that the new month lacks falls
into the month after.

## Main definitions

* `Duration.scaled?`: a floating-point multiple of a duration
* `Moment.shiftWhole?`: a moment moved by whole units
* `Moment.shift?`: a moment moved by a possibly fractional amount
* `Moment.ofCarried?`: the moment of calendar fields, each carried into the next
-/

namespace Timephrase

/-- `amount` times a duration, rounded once as a floating-point number of nanoseconds and then cut
off to a whole one; nothing unless the result lies strictly between `-2 ^ 63` and `2 ^ 63`. -/
def Duration.scaled? (amount : Binary64) (unit : Duration) : Option Duration := do
  let nanos ← unit.word?
  let product ← (amount.mul (.ofInt nanos)).truncated?
  if product.natAbs < Nat.pow 2 63 then some ⟨product⟩ else none

namespace Moment

/-- The number of the month that a moment lies in by its own clock, January of the year zero being
zero. -/
def monthIndex (m : Moment) : Int := m.localTime.date.year * 12 + (m.localTime.date.month - 1 : Nat)

/-- A moment moved by whole months: its day of the month counted from the first of the new month,
with its own time of day and offset. -/
def addMonths? (m : Moment) (months : Int) : Option Moment := do
  let index := m.monthIndex + months
  let date ← Date.rolled? (index / 12) ((index % 12).toNat + 1) m.localTime.date.day
  ofLocal? (m.localTime.withDate date) m.offset

/-- The amounts of a unit of fixed length that a moment can be moved by. -/
def IsShiftCount (n : Int) : Prop := -2147483648 ≤ n ∧ n ≤ 2147483647

instance (n : Int) : Decidable (IsShiftCount n) := inferInstanceAs (Decidable (_ ∧ _))

/-- A moment moved by a whole number of units. -/
def shiftWhole? (m : Moment) (amount : Int) (grain : Grain) : Option Moment :=
  match grain with
  | .month => m.addMonths? amount
  | .year => m.addMonths? (12 * amount)
  | _ => do
    let unit ← grain.fixedLength?
    if IsShiftCount amount then m.add? (← unit.times? amount) else none

/-- The whole part of an amount, if it is finite and less than `2 ^ 31 - 1` in size. -/
def wholeUnits? (amount : Binary64) : Option Int := do
  let n ← amount.truncated?
  if n.natAbs < 2147483647 then some n else none

/-- A moment moved by a possibly fractional amount.  Seconds, minutes and hours move it by a scaled
length; days and weeks by their whole number and then by the scaled rest; months and years only by
a whole number. -/
def shift? (m : Moment) (amount : Binary64) (grain : Grain) : Option Moment :=
  match grain with
  | .second | .minute | .hour => do
    m.add? (← Duration.scaled? amount (← grain.fixedLength?))
  | .day | .week => do
    let shifted ← m.shiftWhole? (← wholeUnits? amount) grain
    shifted.add? (← Duration.scaled? amount.fraction (← grain.fixedLength?))
  | .month | .year =>
    if amount.isWhole then do m.shiftWhole? (← wholeUnits? amount) grain else none

/-- The moment of calendar fields at an offset.  Fields below the month may have any value; each
carries its excess into the fields above it. -/
def ofCarried? (year : Int) (month : Nat) (day hour minute second nanos : Int) (offset : Int) :
    Option Moment := do
  let date ← Date.rolled? year month day
  let clock ← Duration.seconds? (hour * 3600)
  let clock ← clock.add? (← Duration.seconds? (minute * 60))
  let clock ← clock.add? (← Duration.seconds? second)
  let clock ← clock.add? (← Duration.checked? nanos)
  let t ← (LocalTime.ofDate date).add? clock
  ofLocal? t offset

end Moment

end Timephrase
