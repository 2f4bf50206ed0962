import Timephrase.Proofs.Calendar.MonthShift
import Timephrase.Proofs.Calendar.Move

/-!
# Shifts one after the other

Outside leap seconds a shift by whole units of a fixed length is an addition, so that two of them are
one by the sum.  A shift over months adds to the number of the month and keeps the day of the month,
as long as no month lacks that day: up to the day 28.  Then two of these are one by the sum as well.
A shift back by as many units leads back to the moment, unless its own clock shows a date out of range
from which months cannot be counted.

## Main results

* `Moment.shiftWhole?_of_fixedLength?`: two shifts by units of a fixed length
* `Moment.IsOnDate.isOnDate_iff`: laying a moment on one date after another
* `Moment.addMonths?_of_addMonths?`: two shifts over months
* `Moment.shiftWhole?_zero`: a shift by no units
* `Moment.shifts_compose_and_undo`: two shifts by any unit, and a shift back
-/

namespace Timephrase.Moment

variable {m x y r : Moment} {a b : Int} {grain : Grain} {unit : Duration} {date date' : Date}

/-! ## Units of a fixed length -/

/-- **Two shifts by units of a fixed length** are one by the sum, outside leap seconds. -/
theorem shiftWhole?_of_fixedLength? (hunit : grain.fixedLength? = some unit)
    (hleap : m.utc.isLeap = false) (hb : IsShiftCount b) (hsum : IsShiftCount (a + b))
    (h : m.shiftWhole? a grain = some x) : x.shiftWhole? b grain = m.shiftWhole? (a + b) grain := by
  obtain ⟨d, hd, hadd⟩ := exists_add?_of_shiftWhole? hunit h
  calc x.shiftWhole? b grain
      = x.add? ⟨b * unit.nanos⟩ := shiftWhole?_of_isShiftCount hunit hb
    _ = m.add? ⟨d.nanos + b * unit.nanos⟩ := add?_of_add? hleap hadd
    _ = m.add? ⟨(a + b) * unit.nanos⟩ := by rw [hd, Int.add_mul]
    _ = m.shiftWhole? (a + b) grain := (shiftWhole?_of_isShiftCount hunit hsum).symm

/-! ## Months -/

/-- A moment that is laid on one date and then on another one is laid on the other one. -/
theorem IsOnDate.isOnDate_iff (h : IsOnDate date m x) :
    IsOnDate date' x r ↔ IsOnDate date' m r := by
  constructor
  · rintro ⟨hdate, hsecond, hnanos, hoffset⟩
    exact ⟨hdate, hsecond.trans h.secondOfDay_eq, hnanos.trans h.nanos_eq,
      hoffset.trans h.offset_eq⟩
  · rintro ⟨hdate, hsecond, hnanos, hoffset⟩
    exact ⟨hdate, hsecond.trans h.secondOfDay_eq.symm, hnanos.trans h.nanos_eq.symm,
      hoffset.trans h.offset_eq.symm⟩

section Months

variable (hday : m.localTime.date.day ≤ 28)
include hday

/-- A day of the month that every month has is kept by a move over months, which adds to the number
of the month. -/
theorem kept_of_addMonths? (h : m.addMonths? a = some x) :
    x.localTime.date.day = m.localTime.date.day ∧ x.monthIndex = m.monthIndex + a ∧
      ∃ date, IsOnDate date m x := by
  obtain ⟨year, month, hmonth, hindex⟩ := Date.exists_month (m.monthIndex + a)
  obtain ⟨-, -, -, hx⟩ := (addMonths?_eq_some_iff hmonth hindex).mp h
  -- The new month has this day too, so that none is left for the month after.
  have hlength : m.localTime.date.day ≤ Date.monthLength year month :=
    Nat.le_trans hday (Date.le_monthLength hmonth)
  obtain ⟨hyear', hmonth', hday'⟩ :=
    (Date.hasFields_spilled year hmonth m.localTime.date.day_bounds).1 hlength
  rw [← hx.date_eq] at hyear' hmonth' hday'
  refine ⟨by exact_mod_cast hday', ?_, _, hx⟩
  rw [← hindex, monthIndex, hyear', hmonth']
  omega

/-- **Two shifts over months** are one by the sum, from a day of the month that every month has. -/
theorem addMonths?_of_addMonths? (h : m.addMonths? a = some x) :
    x.addMonths? b = m.addMonths? (a + b) := by
  obtain ⟨hkept, hindex, date, hx⟩ := kept_of_addMonths? hday h
  -- Both come to the same month, on the same day of it.
  obtain ⟨year, month, hmonth, hsum⟩ := Date.exists_month (m.monthIndex + (a + b))
  have hrest : 12 * year + (month - 1) = x.monthIndex + b := by
    rw [hsum, hindex, Int.add_assoc]
  refine Option.ext fun r => ?_
  rw [addMonths?_eq_some_iff hmonth hrest, addMonths?_eq_some_iff hmonth hsum, hkept,
    hx.isOnDate_iff]

end Months

/-! ## All units -/

/-- **Two shifts by a unit** are one by the sum. -/
theorem shiftWhole?_of_shiftWhole? (hleap : m.utc.isLeap = false)
    (hday : grain.isCalendric = true → m.localTime.date.day ≤ 28) (hb : IsShiftCount b)
    (hsum : IsShiftCount (a + b)) (h : m.shiftWhole? a grain = some x) :
    x.shiftWhole? b grain = m.shiftWhole? (a + b) grain := by
  cases grain with
  | second | minute | hour | day | week => exact shiftWhole?_of_fixedLength? rfl hleap hb hsum h
  | month => exact addMonths?_of_addMonths? (hday rfl) h
  | year =>
    -- Years are counted as twelve months each.
    show x.addMonths? (12 * b) = m.addMonths? (12 * (a + b))
    rw [Int.mul_add]
    exact addMonths?_of_addMonths? (hday rfl) h

/-- A moment is laid on its own date. -/
theorem isOnDate_date (m : Moment) : IsOnDate m.localTime.date m m := ⟨rfl, rfl, rfl, rfl⟩

/-- A move over no months leads nowhere else, and leads back if the date is supported. -/
theorem addMonths?_zero : m.addMonths? 0 = some y ↔
    y = m ∧ m.Supported ∧ m.localTime.Supported := by
  have hfields := m.localTime.date.isValid_fields
  have hmonth : 1 ≤ m.localTime.date.month ∧ m.localTime.date.month ≤ 12 :=
    ⟨hfields.month_pos, hfields.month_le⟩
  have hindex : 12 * m.localTime.date.year + (m.localTime.date.month - 1) = m.monthIndex + 0 := by
    have hpos := hfields.month_pos
    unfold monthIndex
    omega
  rw [addMonths?_eq_some_iff hmonth hindex, Date.ofFields_fields]
  constructor
  · rintro ⟨-, hdate, hy, hon⟩
    obtain rfl : y = m := (isOnDate_iff.mp hon).trans (isOnDate_iff.mp m.isOnDate_date).symm
    exact ⟨rfl, hy, hdate⟩
  · rintro ⟨rfl, hy, hdate⟩
    refine ⟨?_, hdate, hy, y.isOnDate_date⟩
    -- The first of the month lies in the same year.
    obtain ⟨hfirst, hlast⟩ := Date.firstYear_le_year hdate
    have hyear : (Date.ofFields y.localTime.date.year y.localTime.date.month 1).year =
        y.localTime.date.year := (Date.hasFields_first hmonth).1
    apply Date.supported_of_year
    · rwa [hyear]
    · rwa [hyear]

/-- **A shift by no units** leads nowhere else.  It leads back to a supported moment, which for months
and years has to show a supported date as well. -/
theorem shiftWhole?_zero : m.shiftWhole? 0 grain = some y ↔
    y = m ∧ m.Supported ∧ (grain.isCalendric = true → m.localTime.Supported) := by
  cases hunit : grain.fixedLength? with
  | some unit =>
    -- The instant is all that a unit of a fixed length moves.
    have hgrain : ¬grain.isCalendric = true := by
      rw [← grain.fixedLength?_eq_none_iff, hunit]
      exact nofun
    have hsame : m.add ⟨0 * unit.nanos⟩ = m := add_of_nanos_eq_zero (Int.zero_mul _)
    rw [shiftWhole?_of_isShiftCount hunit (by decide), add?_eq_some_iff, hsame]
    constructor
    · rintro ⟨rfl, hm⟩
      exact ⟨rfl, hm, fun h => absurd h hgrain⟩
    · rintro ⟨rfl, hm, -⟩
      exact ⟨rfl, hm⟩
  | none =>
    have hgrain : grain.isCalendric = true := (grain.fixedLength?_eq_none_iff).mp hunit
    have hmonths : m.shiftWhole? 0 grain = m.addMonths? 0 := by
      cases grain with
      | month | year => rfl
      | second | minute | hour | day | week => cases hunit
    rw [hmonths, addMonths?_zero]
    constructor
    · rintro ⟨rfl, hm, hshown⟩
      exact ⟨rfl, hm, fun _ => hshown⟩
    · rintro ⟨rfl, hm, hshown⟩
      exact ⟨rfl, hm, hshown hgrain⟩

/-- **Shifts compose and undo.**  A moment outside leap seconds is shifted by some units, and what
comes of it by some more of them: seconds, minutes, hours, days or weeks, or else months or years if
the day of the month is not past the 28th.  The second shift comes to a moment just if one shift by
both numbers together does, and to the same.  If the numbers cancel out, it leads back: to no other
moment, and to this one if it is supported, which for months and years is to say by its own clock
too. -/
theorem shifts_compose_and_undo (hleap : m.utc.isLeap = false)
    (hday : grain.isCalendric = true → m.localTime.date.day ≤ 28) (hb : IsShiftCount b)
    (hsum : IsShiftCount (a + b)) (hx : m.shiftWhole? a grain = some x) :
    (∀ y, x.shiftWhole? b grain = some y ↔ m.shiftWhole? (a + b) grain = some y) ∧
    (a + b = 0 →
      (∀ y, x.shiftWhole? b grain = some y → y = m) ∧
      (m.Supported → (grain.isCalendric = true → m.localTime.Supported) →
        x.shiftWhole? b grain = some m)) := by
  rw [shiftWhole?_of_shiftWhole? hleap hday hb hsum hx]
  refine ⟨fun y => Iff.rfl, fun hzero => ?_⟩
  rw [hzero]
  constructor
  · intro y hy
    exact (shiftWhole?_zero.mp hy).1
  · intro hm hshown
    exact shiftWhole?_zero.mpr ⟨rfl, hm, hshown⟩

/-- Thirteen months on from 28 January of a leap year, and back again. -/
theorem shifts_compose_and_undo_months :
    (⟨⟨1706400000, 0⟩, 0⟩ : Moment).shiftWhole? 13 .month = some ⟨⟨1740700800, 0⟩, 0⟩ ∧
      (⟨⟨1740700800, 0⟩, 0⟩ : Moment).shiftWhole? (-13) .month = some ⟨⟨1706400000, 0⟩, 0⟩ ∧
      (⟨⟨1740700800, 0⟩, 0⟩ : Moment).shiftWhole? (-12) .month =
        (⟨⟨1706400000, 0⟩, 0⟩ : Moment).shiftWhole? 1 .month := by
  have hon : (⟨⟨1706400000, 0⟩, 0⟩ : Moment).shiftWhole? 13 .month =
      some ⟨⟨1740700800, 0⟩, 0⟩ := by
    decide +kernel
  have hday : Grain.month.isCalendric = true →
      (⟨⟨1706400000, 0⟩, 0⟩ : Moment).localTime.date.day ≤ 28 := by
    decide +kernel
  obtain ⟨-, hback⟩ := shifts_compose_and_undo (b := -13) rfl hday (by decide) (by decide) hon
  obtain ⟨hless, -⟩ := shifts_compose_and_undo (b := -12) rfl hday (by decide) (by decide) hon
  refine ⟨hon, (hback rfl).2 (by decide +kernel) (fun _ => by decide +kernel), ?_⟩
  exact Option.ext hless

/-- From the 29th two months on are not a month on and another one: February has no such day. -/
example : ((⟨⟨1674950400, 0⟩, 0⟩ : Moment).shiftWhole? 1 .month).bind (·.shiftWhole? 1 .month) ≠
    (⟨⟨1674950400, 0⟩, 0⟩ : Moment).shiftWhole? 2 .month := by
  decide +kernel

end Timephrase.Moment
