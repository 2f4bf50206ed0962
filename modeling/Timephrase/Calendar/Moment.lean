import Timephrase.Calendar.LocalTime

/-!
# Moments

A moment is an instant together with the offset from universal time at which it is read: what a
clock of universal time shows at the instant, and the seconds by which the local clock is ahead.
Arithmetic is checked on the universal reading alone.  The local reading may lie up to a day beyond
the supported dates.

## Main definitions

* `Moment`: universal reading and offset
* `Moment.localTime`: the local reading
* `Moment.ofLocal?`: the moment at which a clock of a given offset shows a local time
* `Moment.add?`: a moment moved by a duration
* `Moment.startOfDay`: the midnight before a moment, by its own clock
-/

namespace Timephrase

/-- An instant and the offset, in seconds east, at which it is read. -/
structure Moment where
  utc : LocalTime
  offset : Int
  deriving DecidableEq, Repr, Inhabited

namespace Moment

/-- What the local clock shows. -/
def localTime (m : Moment) : LocalTime := m.utc.shiftClock m.offset

/-- The moment at which a clock ahead of universal time by `offset` shows `t`. -/
def ofLocal (t : LocalTime) (offset : Int) : Moment := ⟨t.shiftClock (-offset), offset⟩

/-- The moments whose universal date is supported. -/
def Supported (m : Moment) : Prop := m.utc.Supported

instance (m : Moment) : Decidable m.Supported := inferInstanceAs (Decidable m.utc.Supported)

/-- The moment, if it is supported. -/
def supported? (m : Moment) : Option Moment := if m.Supported then some m else none

/-- The supported moment at which a clock ahead by `offset` shows `t`. -/
def ofLocal? (t : LocalTime) (offset : Int) : Option Moment := (ofLocal t offset).supported?

/-- A moment moved by a duration. -/
def add (m : Moment) (d : Duration) : Moment := ⟨m.utc.add d, m.offset⟩

/-- A moment moved by a duration, if the result is supported. -/
def add? (m : Moment) (d : Duration) : Option Moment := (m.add d).supported?

/-- The midnight before a moment by its own clock, found by moving back over the day so far. -/
def startOfDay (m : Moment) : Moment := m.add m.localTime.sinceMidnight.neg

/-! ## Interface -/

@[simp] theorem localTime_ofLocal (t : LocalTime) (offset : Int) :
    (ofLocal t offset).localTime = t := by
  cases t
  simp [localTime, ofLocal, LocalTime.shiftClock, Int.neg_add_cancel_right]

@[simp] theorem offset_ofLocal (t : LocalTime) (offset : Int) :
    (ofLocal t offset).offset = offset := rfl

@[simp] theorem offset_add (m : Moment) (d : Duration) : (m.add d).offset = m.offset := rfl

theorem supported?_eq_some_iff {m n : Moment} :
    m.supported? = some n ↔ m = n ∧ m.Supported := by
  unfold supported?
  split <;> simp_all

/-- A moment is found from its local reading and its offset. -/
@[simp] theorem ofLocal_localTime (m : Moment) : ofLocal m.localTime m.offset = m := by
  rcases m with ⟨⟨s, n⟩, o⟩
  simp [localTime, ofLocal, LocalTime.shiftClock, Int.add_neg_cancel_right]

end Moment

end Timephrase
