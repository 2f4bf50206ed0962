import Timephrase.Calendar.Date
import Timephrase.Duration
import Timephrase.Text.Digits

/-!
# Local times

A local time is what a calendar and a clock show together, with no zone to it: the seconds since
the first of January 1970 by the same clock, and the nanoseconds of the second.  A leap second has
no number of its own.  It is shown as a second whose nanoseconds run on from one milliard to two,
so that the seconds of every day are still counted from 0 to 86399.

## Main definitions

* `LocalTime`: seconds and nanoseconds
* `LocalTime.date`, `LocalTime.secondOfDay`: the two parts
* `LocalTime.ofDate`: the midnight that a date starts with
* `LocalTime.add`: a local time moved by a duration, leap seconds taken into account
* `LocalTime.sinceMidnight`: the length of the day so far
* `LocalTime.text`: the written form
-/

namespace Timephrase

/-- What a calendar and a clock show.  The nanoseconds reach from zero to one milliard, or in a leap
second from one milliard to two. -/
structure LocalTime where
  seconds : Int
  nanos : Nat
  deriving DecidableEq, Repr, Inhabited

namespace LocalTime

/-- The seconds of a day. -/
def perDay : Nat := 86400

/-- The calendar date. -/
def date (t : LocalTime) : Date := ⟨t.seconds / perDay⟩

/-- The seconds shown since midnight. -/
def secondOfDay (t : LocalTime) : Nat := (t.seconds % perDay).toNat

/-- The hour shown. -/
def hour (t : LocalTime) : Nat := t.secondOfDay / 3600

/-- The minute shown. -/
def minute (t : LocalTime) : Nat := t.secondOfDay / 60 % 60

/-- The second shown, at most 59 even in a leap second. -/
def second (t : LocalTime) : Nat := t.secondOfDay % 60

/-- Whether a local time lies in a leap second. -/
def isLeap (t : LocalTime) : Bool := Duration.perSecond ≤ t.nanos

/-- The local time whose date is supported. -/
def Supported (t : LocalTime) : Prop := t.date.Supported

instance (t : LocalTime) : Decidable t.Supported := inferInstanceAs (Decidable t.date.Supported)

/-- The midnight that a date starts with. -/
def ofDate (d : Date) : LocalTime := ⟨d.dayNumber * perDay, 0⟩

/-- A date with the time of day of `t`, a leap second kept. -/
def withDate (t : LocalTime) (d : Date) : LocalTime :=
  ⟨d.dayNumber * perDay + t.secondOfDay, t.nanos⟩

/-- The local time `n` nanoseconds after 1 January 1970, none of them in a leap second. -/
def ofNanos (n : Int) : LocalTime := ⟨n / Duration.perSecond, (n % Duration.perSecond).toNat⟩

/-- The nanoseconds since 1 January 1970, those of a leap second counted on beyond its start. -/
def toNanos (t : LocalTime) : Int := t.seconds * Duration.perSecond + t.nanos

/-- The clock set forward by whole seconds, as for another offset from universal time; a leap second
stays one. -/
def shiftClock (t : LocalTime) (seconds : Int) : LocalTime := ⟨t.seconds + seconds, t.nanos⟩

/-- A local time moved by a duration.  A leap second is left behind at once by a move that reaches
beyond its end, which then counts from the second's number alone, and by a move of a whole second or
more back, which counts the leap second as it passes.  Smaller moves stay in the second shown. -/
def add (t : LocalTime) (d : Duration) : LocalTime :=
  if t.isLeap then
    if 0 < d.wholeSeconds ∨ (0 < d.subsecond ∧ 2 * Duration.perSecond - d.subsecond ≤ t.nanos) then
      ofNanos (t.toNanos - Duration.perSecond + d.nanos)
    else if d.wholeSeconds < 0 then ofNanos (t.toNanos + d.nanos)
    else ⟨t.seconds, (t.nanos + d.subsecond).toNat⟩
  else ofNanos (t.toNanos + d.nanos)

/-- A local time moved by a duration, if the date that it comes to is supported. -/
def add? (t : LocalTime) (d : Duration) : Option LocalTime :=
  if (t.add d).Supported then some (t.add d) else none

/-- The length of the day so far, a leap second counted. -/
def sinceMidnight (t : LocalTime) : Duration :=
  ⟨(t.secondOfDay : Int) * Duration.perSecond + t.nanos⟩

/-- The time of day as hours, minutes and seconds with a fraction; a leap second is second 60. -/
def clockText (t : LocalTime) : String :=
  let second := if t.isLeap then t.second + 1 else t.second
  let nanos := if t.isLeap then t.nanos - Duration.perSecond else t.nanos
  Digits.padded 2 t.hour ++ ":" ++ Digits.padded 2 t.minute ++ ":" ++ Digits.padded 2 second ++
    Digits.fraction nanos

/-- A local time as its date and its time of day. -/
def text (t : LocalTime) : String := t.date.text ++ " " ++ t.clockText

/-! ## Interface -/

@[simp] theorem date_ofDate (d : Date) : (ofDate d).date = d := by
  simp [date, ofDate, perDay]

@[simp] theorem secondOfDay_ofDate (d : Date) : (ofDate d).secondOfDay = 0 := by
  simp [secondOfDay, ofDate, perDay]

theorem secondOfDay_lt (t : LocalTime) : t.secondOfDay < perDay := by
  simp only [secondOfDay, perDay]
  omega

/-- A local time is its date's midnight and the seconds since. -/
theorem seconds_eq (t : LocalTime) :
    t.seconds = t.date.dayNumber * perDay + t.secondOfDay := by
  simp only [date, secondOfDay, perDay]
  omega

@[simp] theorem shiftClock_zero (t : LocalTime) : t.shiftClock 0 = t := by
  simp [shiftClock]

/-- Outside leap seconds a move is an addition of nanoseconds. -/
theorem toNanos_add {t : LocalTime} (h : t.isLeap = false) (d : Duration) :
    (t.add d).toNanos = t.toNanos + d.nanos := by
  simp only [add, h, Bool.false_eq_true, if_false, ofNanos, toNanos, Duration.perSecond]
  omega

end LocalTime

end Timephrase
