import Timephrase.Proofs.Calendar.MonthShift

/-!
# The start of a day

The start of a day is found by moving back over the day so far, as the clock of the moment shows it.
Instants are kept by universal time, where the date is often another one, and a leap second is both
passed by the move and a part of its length.  All the same the result is the midnight that the date
starts with, by the same clock.

## Main definitions

* `Moment.IsDayStart`: the moment that starts the day of another one

## Main results

* `Moment.isDayStart_iff`: there is one such moment
* `Moment.startOfDay_eq_self_iff`: the moments that start a day themselves
* `Moment.not_before_startOfDay`: no moment is earlier than the start of its day
* `Moment.startOfDay_eq_startOfDay_iff`: the start of a day stands for the date
* `Moment.start_of_day_truncates`: all of this together
-/

namespace Timephrase

theorem LocalTime.clock_ofDate (d : Date) :
    (ofDate d).hour = 0 ∧ (ofDate d).minute = 0 ∧ (ofDate d).second = 0 ∧ (ofDate d).nanos = 0 := by
  unfold hour minute second
  rw [secondOfDay_ofDate]
  exact ⟨rfl, rfl, rfl, rfl⟩

/-- What a clock shows at the start of a day is the midnight of the date. -/
theorem LocalTime.isMidnight_iff {t : LocalTime} :
    t.IsMidnight ↔ t.hour = 0 ∧ t.minute = 0 ∧ t.second = 0 ∧ t.nanos = 0 := by
  constructor
  · intro h
    rw [h]
    exact clock_ofDate t.date
  · rintro ⟨hhour, hminute, hsecond, hnanos⟩
    -- With no time of the day passed, the seconds are those of whole days.
    have hparts := t.seconds_eq
    rw [t.secondOfDay_eq, hhour, hminute, hsecond] at hparts
    unfold IsMidnight ofDate
    rw [← hnanos]
    cases t
    simpa using hparts

namespace Moment

variable {m n r : Moment}

/-- A moment starts the day of another one: it shows the same date at the same offset, and no time
of that day has passed. -/
structure IsDayStart (m r : Moment) : Prop where
  offset_eq : r.offset = m.offset
  date_eq : r.localTime.date = m.localTime.date
  hour_eq : r.localTime.hour = 0
  minute_eq : r.localTime.minute = 0
  second_eq : r.localTime.second = 0
  nanos_eq : r.localTime.nanos = 0

theorem localTime_startOfDay (m : Moment) : m.startOfDay.localTime = .ofDate m.localTime.date := by
  rw [startOfDay_eq, localTime_ofLocal]

/-- **There is one moment that starts the day of a moment.** -/
theorem isDayStart_iff : IsDayStart m r ↔ r = m.startOfDay := by
  constructor
  · rintro ⟨hoffset, hdate, hhour, hminute, hsecond, hnanos⟩
    have hmidnight : r.localTime = .ofDate r.localTime.date :=
      LocalTime.isMidnight_iff.mpr ⟨hhour, hminute, hsecond, hnanos⟩
    rw [startOfDay_eq, ← hdate, ← hmidnight, ← hoffset, ofLocal_localTime]
  · rintro rfl
    obtain ⟨hhour, hminute, hsecond, hnanos⟩ := LocalTime.clock_ofDate m.localTime.date
    constructor
    · rfl
    · rw [localTime_startOfDay, LocalTime.date_ofDate]
    · rw [localTime_startOfDay, hhour]
    · rw [localTime_startOfDay, hminute]
    · rw [localTime_startOfDay, hsecond]
    · rw [localTime_startOfDay, hnanos]

/-- **A moment starts a day itself** just if its clock shows midnight. -/
theorem startOfDay_eq_self_iff : m.startOfDay = m ↔ m.localTime.IsMidnight := by
  constructor
  · intro h
    rw [← h, localTime_startOfDay]
    exact LocalTime.isMidnight_ofDate _
  · intro h
    rw [startOfDay_eq, ← h, ofLocal_localTime]

/-- The start of a day starts it itself. -/
theorem startOfDay_startOfDay (m : Moment) : m.startOfDay.startOfDay = m.startOfDay := by
  rw [startOfDay_eq_self_iff, localTime_startOfDay]
  exact LocalTime.isMidnight_ofDate _

/-- **No moment is earlier than the start of its day**, not even one in a leap second. -/
theorem not_before_startOfDay (m : Moment) : ¬m.Before m.startOfDay := by
  -- The move goes back over the seconds of the day and all nanoseconds, of a leap second too.
  have hutc : m.startOfDay.utc = ⟨m.utc.seconds - m.localTime.secondOfDay, 0⟩ :=
    LocalTime.add_back _ rfl
  unfold Before
  rw [hutc]
  dsimp only
  omega

/-- **The start of a day stands for the date**, at an offset. -/
theorem startOfDay_eq_startOfDay_iff (hoffset : m.offset = n.offset) :
    m.startOfDay = n.startOfDay ↔ m.localTime.date = n.localTime.date := by
  constructor
  · intro h
    have hdate := congrArg (·.localTime.date) h
    simpa only [localTime_startOfDay, LocalTime.date_ofDate] using hdate
  · intro h
    rw [startOfDay_eq, startOfDay_eq, h, hoffset]

/-- **The start of a day truncates to the local day.**  For every moment whose clock shows a year from
0 to 9999, at an offset of less than a day and with any nanoseconds, those of a leap second too, the
move back over the day so far stays in range.  What it comes to is the one moment that shows the same
date at the same offset and midnight.  That moment is the start of its own day, and not later than the
one that it was found from.  Two moments of one offset have the same start of day just if their clocks
show the same date. -/
theorem start_of_day_truncates (hyear : 0 ≤ m.localTime.date.year ∧ m.localTime.date.year ≤ 9999)
    (hoffset : -86400 < m.offset ∧ m.offset < 86400) :
    m.add? m.localTime.sinceMidnight.neg = some m.startOfDay ∧
    (∀ r, IsDayStart m r ↔ r = m.startOfDay) ∧
    m.startOfDay.startOfDay = m.startOfDay ∧
    ¬m.Before m.startOfDay ∧
    ∀ n : Moment, n.offset = m.offset →
      (n.startOfDay = m.startOfDay ↔ n.localTime.date = m.localTime.date) := by
  refine ⟨?_, fun r => isDayStart_iff, m.startOfDay_startOfDay, m.not_before_startOfDay, ?_⟩
  · exact add?_eq_some_iff.mpr ⟨rfl, (isBuilt_startOfDay hyear hoffset).supported⟩
  · intro n hsame
    exact startOfDay_eq_startOfDay_iff hsame

/-- In a leap second, an hour after midnight by its own clock and on the day before by universal
time. -/
theorem start_of_day_truncates_leap_second :
    (⟨⟨1483228799, 1500000000⟩, 3600⟩ : Moment).localTime.date.HasFields 2017 1 1 ∧
      (⟨⟨1483228799, 1500000000⟩, 3600⟩ : Moment).utc.isLeap = true ∧
      (⟨⟨1483228799, 1500000000⟩, 3600⟩ : Moment).startOfDay = ⟨⟨1483225200, 0⟩, 3600⟩ := by
  have hfields : (⟨⟨1483228799, 1500000000⟩, 3600⟩ : Moment).localTime.date.HasFields 2017 1 1 := by
    decide +kernel
  obtain ⟨-, hstart, -⟩ := start_of_day_truncates (m := ⟨⟨1483228799, 1500000000⟩, 3600⟩)
    (by rw [hfields.1]; decide) (by decide)
  have hday : IsDayStart ⟨⟨1483228799, 1500000000⟩, 3600⟩ ⟨⟨1483225200, 0⟩, 3600⟩ :=
    ⟨rfl, rfl, rfl, rfl, rfl, rfl⟩
  exact ⟨hfields, rfl, ((hstart _).mp hday).symm⟩

end Moment

end Timephrase
