import Timephrase.Calendar.Shift
import Timephrase.Proofs.Result

/-!
# Where arithmetic stays in range

Whatever moves a moment keeps its offset and checks the universal reading, so that the local reading
of the result may lie beyond the supported dates by the offset.  It does not where the result is
built from a date that was checked itself: from calendar fields, or by moving over months.

## Main definitions

* `Moment.IsBuilt`: a moment of an offset that is supported by universal time and by its own clock

## Main results

* `Date.dayNumber_of_year`: the dates of a range of years
* `Moment.startOfDay_eq`: the start of a day is its midnight
* `Moment.isBuilt_of_ofCarried?`, `Moment.isBuilt_of_shift?`, `Moment.kept_of_shift?`: which readings
  of a result are supported
* `Moment.isBuilt_of_shiftWhole?_startOfDay`: the days about a moment
-/

namespace Timephrase

/-! ## Dates -/

namespace Date

variable {d : Date}

theorem yearStart_mono {y y' : Int} (h : y ≤ y') : yearStart y ≤ yearStart y' := by
  simp only [yearStart]
  omega

/-- **The dates of a range of years** lie between the first days of the first year and of the one
after the last. -/
theorem dayNumber_of_year {first last : Int} (hfirst : first ≤ d.year) (hlast : d.year ≤ last) :
    yearStart first ≤ d.dayNumber ∧ d.dayNumber < yearStart (last + 1) := by
  obtain ⟨hstart, hstop⟩ := yearStart_yearOf_le d.dayNumber
  have hbefore : yearStart first ≤ yearStart d.year := yearStart_mono hfirst
  have hafter : yearStart (d.year + 1) ≤ yearStart (last + 1) := yearStart_mono (by omega)
  exact ⟨Int.le_trans hbefore hstart, Int.lt_of_lt_of_le hstop hafter⟩

/-- The supported dates by their numbers. -/
theorem supported_iff : d.Supported ↔ -96465292 ≤ d.dayNumber ∧ d.dayNumber < 95026237 := by
  have hfirst : yearStart firstYear = -96465292 := by decide
  have hlast : yearStart (lastYear + 1) = 95026237 := by decide
  rw [Supported, hfirst, hlast]

theorem supported_of_rolled? {year day : Int} {month : Nat} (h : rolled? year month day = some d) :
    d.Supported := by
  obtain ⟨first, -, h⟩ := Option.bind_eq_some_iff.mp h
  obtain ⟨rfl, hd⟩ := supported?_eq_some_iff.mp h
  exact hd

end Date

/-! ## Local times -/

namespace LocalTime

variable {t u : LocalTime} {d : Duration}

/-- The supported local times by their seconds. -/
theorem supported_iff :
    t.Supported ↔ -96465292 * 86400 ≤ t.seconds ∧ t.seconds < 95026237 * 86400 := by
  rw [Supported, Date.supported_iff, date, perDay]
  dsimp only
  omega

theorem date_withDate (t : LocalTime) (d : Date) : (t.withDate d).date = d := by
  have hlt : t.secondOfDay < perDay := t.secondOfDay_lt
  rw [withDate, date]
  simp only [perDay] at hlt ⊢
  congr 1
  omega

/-- Outside leap seconds a move by whole seconds is one of the clock. -/
theorem add_whole (h : t.nanos < Duration.perSecond) {n : Int}
    (hd : d.nanos = n * Duration.perSecond) : t.add d = t.shiftClock n := by
  have hleap : t.isLeap = false := by
    simpa [isLeap] using h
  simp only [add, hleap, ofNanos, toNanos, shiftClock, hd, Duration.perSecond] at h ⊢
  simp only [Bool.false_eq_true, if_false, mk.injEq]
  omega

/-- A move back over some whole seconds and over all of the second shown, a leap second too. -/
theorem add_back (s : Nat) (hd : d.nanos = -((s : Int) * Duration.perSecond + t.nanos)) :
    t.add d = ⟨t.seconds - s, 0⟩ := by
  have hback : ofNanos (t.toNanos + d.nanos) = ⟨t.seconds - s, 0⟩ := by
    simp only [ofNanos, toNanos, hd, Duration.perSecond, mk.injEq]
    omega
  cases hleap : t.isLeap with
  | false => simp only [add, hleap, Bool.false_eq_true, if_false, hback]
  | true =>
    have hnanos : Duration.perSecond ≤ t.nanos := by
      simpa [isLeap] using hleap
    have hparts : d.wholeSeconds < 0 ∧ d.subsecond ≤ 0 := by
      simp only [Duration.wholeSeconds, Duration.subsecond, hd, Duration.perSecond] at hnanos ⊢
      rw [Int.neg_tdiv, Int.neg_tmod, Int.tdiv_eq_ediv_of_nonneg (by omega),
        Int.tmod_eq_emod_of_nonneg (by omega)]
      omega
    -- The move counts the leap second as it passes, since it reaches back a second or more.
    rw [add, if_pos hleap, if_neg (by omega), if_pos hparts.1, hback]

theorem supported_of_add? (h : t.add? d = some u) : u.Supported := by
  rw [add?] at h
  split at h
  · next hu =>
    obtain rfl : t.add d = u := Option.some.inj h
    exact hu
  · cases h

end LocalTime

/-! ## Moments -/

namespace Moment

variable {m n : Moment} {d : Duration} {amount : Binary64} {grain : Grain} {offset : Int}

theorem ofLocal?_eq_some_iff {t : LocalTime} :
    ofLocal? t offset = some m ↔ ofLocal t offset = m ∧ m.Supported := by
  rw [ofLocal?, supported?_eq_some_iff]
  exact and_congr_right fun h => by rw [h]

theorem add?_eq_some_iff : m.add? d = some n ↔ m.add d = n ∧ n.Supported := by
  rw [add?, supported?_eq_some_iff]
  exact and_congr_right fun h => by rw [h]

/-- **The start of a day is its midnight**. -/
theorem startOfDay_eq (m : Moment) :
    m.startOfDay = ofLocal (.ofDate m.localTime.date) m.offset := by
  have hutc : m.startOfDay.utc = ⟨m.utc.seconds - m.localTime.secondOfDay, 0⟩ :=
    LocalTime.add_back _ rfl
  have hseconds : m.localTime.seconds = m.utc.seconds + m.offset := rfl
  have hparts := m.localTime.seconds_eq
  rw [← m.startOfDay.ofLocal_localTime]
  have hlocal : m.startOfDay.localTime = .ofDate m.localTime.date := by
    rw [localTime, hutc, LocalTime.shiftClock, LocalTime.ofDate]
    dsimp only
    congr 1
    have hoffset : m.startOfDay.offset = m.offset := rfl
    omega
  rw [hlocal]
  rfl

/-- A moment of an offset whose universal and whose local reading are supported. -/
structure IsBuilt (offset : Int) (m : Moment) : Prop where
  offset_eq : m.offset = offset
  supported : m.Supported
  shown : m.localTime.Supported

theorem isBuilt_of_ofLocal? {t : LocalTime} (ht : t.Supported) (h : ofLocal? t offset = some m) :
    m.IsBuilt offset := by
  obtain ⟨rfl, hm⟩ := ofLocal?_eq_some_iff.mp h
  exact ⟨rfl, hm, (localTime_ofLocal t offset).symm ▸ ht⟩

/-- A moment is supported by universal time if its own clock shows a time that is a day inside the
supported ones. -/
theorem supported_of_shown (hoffset : -86400 < m.offset ∧ m.offset < 86400)
    (hbefore : (m.localTime.date.addDays (-1)).Supported)
    (hafter : (m.localTime.date.addDays 1).Supported) : m.Supported := by
  rw [Date.supported_iff, Date.dayNumber_addDays] at hbefore hafter
  have hseconds : m.localTime.seconds = m.utc.seconds + m.offset := rfl
  have hparts := m.localTime.seconds_eq
  have hlt := m.localTime.secondOfDay_lt
  rw [Supported, LocalTime.supported_iff]
  simp only [LocalTime.perDay] at hparts hlt
  omega

/-- **Moments of calendar fields** are supported by universal time and by their own clocks. -/
theorem isBuilt_of_ofCarried? {year day hour minute second nanos : Int} {month : Nat}
    (h : ofCarried? year month day hour minute second nanos offset = some m) :
    m.IsBuilt offset := by
  -- All but the last step make the date and the time of day, which are put together and checked.
  obtain ⟨date, -, h⟩ := Option.bind_eq_some_iff.mp h
  obtain ⟨hours, -, h⟩ := Option.bind_eq_some_iff.mp h
  obtain ⟨minutes, -, h⟩ := Option.bind_eq_some_iff.mp h
  obtain ⟨toMinute, -, h⟩ := Option.bind_eq_some_iff.mp h
  obtain ⟨seconds, -, h⟩ := Option.bind_eq_some_iff.mp h
  obtain ⟨toSecond, -, h⟩ := Option.bind_eq_some_iff.mp h
  obtain ⟨fraction, -, h⟩ := Option.bind_eq_some_iff.mp h
  obtain ⟨clock, -, h⟩ := Option.bind_eq_some_iff.mp h
  obtain ⟨t, ht, h⟩ := Option.bind_eq_some_iff.mp h
  exact isBuilt_of_ofLocal? (LocalTime.supported_of_add? ht) h

theorem isBuilt_of_addMonths? {months : Int} (h : m.addMonths? months = some n) :
    n.IsBuilt m.offset := by
  obtain ⟨date, hdate, h⟩ := Option.bind_eq_some_iff.mp h
  have hshown : (m.localTime.withDate date).Supported := by
    rw [LocalTime.Supported, LocalTime.date_withDate]
    exact Date.supported_of_rolled? hdate
  exact isBuilt_of_ofLocal? hshown h

/-- A move over whole units of fixed length is one move by their length together. -/
theorem shiftWhole?_eq {unit : Duration} (hunit : grain.fixedLength? = some unit) (count : Int) :
    m.shiftWhole? count grain =
      if IsShiftCount count then (unit.times? count).bind m.add? else none := by
  cases grain with
  | month | year => cases hunit
  | second | minute | hour | day | week =>
    obtain rfl := Option.some.inj hunit
    rfl

/-- As many units as a moment can be moved by are a duration. -/
theorem times?_of_isShiftCount {unit : Duration} {count : Int}
    (hunit : grain.fixedLength? = some unit) (hcount : IsShiftCount count) :
    unit.times? count = some ⟨count * unit.nanos⟩ := by
  refine Duration.checked?_eq_some_iff.mpr ⟨rfl, ?_⟩
  unfold IsShiftCount at hcount
  cases grain with
  | month | year => cases hunit
  | second | minute | hour | day | week =>
    obtain rfl := Option.some.inj hunit
    simp only [Duration.InRange, Duration.limit, Duration.second, Duration.minute, Duration.hour,
      Duration.day, Duration.week, Duration.perSecond]
    omega

theorem shiftWhole?_of_isShiftCount {unit : Duration} {count : Int}
    (hunit : grain.fixedLength? = some unit) (hcount : IsShiftCount count) :
    m.shiftWhole? count grain = m.add? ⟨count * unit.nanos⟩ := by
  rw [shiftWhole?_eq hunit, if_pos hcount, times?_of_isShiftCount hunit hcount, Option.bind_some]

theorem exists_add?_of_shiftWhole? {unit : Duration} {count : Int}
    (hunit : grain.fixedLength? = some unit) (h : m.shiftWhole? count grain = some n) :
    ∃ d, d.nanos = count * unit.nanos ∧ m.add? d = some n := by
  rw [shiftWhole?_eq hunit] at h
  split at h
  · obtain ⟨d, hd, h⟩ := Option.bind_eq_some_iff.mp h
    exact ⟨d, Duration.nanos_of_checked? hd, h⟩
  · cases h

theorem isBuilt_of_shiftWhole? {count : Int} (hgrain : grain.fixedLength? = none)
    (h : m.shiftWhole? count grain = some n) : n.IsBuilt m.offset := by
  cases grain with
  | month | year => exact isBuilt_of_addMonths? h
  | second | minute | hour | day | week => cases hgrain

theorem kept_of_add? (h : m.add? d = some n) : n.offset = m.offset ∧ n.Supported := by
  obtain ⟨rfl, hn⟩ := add?_eq_some_iff.mp h
  exact ⟨rfl, hn⟩

/-- **A move over months or years** has a result that is supported by its own clock as well. -/
theorem isBuilt_of_shift? (hgrain : grain.fixedLength? = none)
    (h : m.shift? amount grain = some n) : n.IsBuilt m.offset := by
  have hwhole : ∃ count, m.shiftWhole? count grain = some n := by
    cases grain with
    | second | minute | hour | day | week => cases hgrain
    | month | year =>
      simp only [shift?] at h
      split at h
      · obtain ⟨count, -, h⟩ := Option.bind_eq_some_iff.mp h
        exact ⟨count, h⟩
      · cases h
  obtain ⟨count, hwhole⟩ := hwhole
  exact isBuilt_of_shiftWhole? hgrain hwhole

/-- **A move by an amount of a unit** keeps the offset, and its result is supported by universal
time. -/
theorem kept_of_shift? (h : m.shift? amount grain = some n) :
    n.offset = m.offset ∧ n.Supported := by
  cases hunit : grain.fixedLength? with
  | none =>
    have hbuilt : n.IsBuilt m.offset := isBuilt_of_shift? hunit h
    exact ⟨hbuilt.offset_eq, hbuilt.supported⟩
  | some unit =>
    cases grain with
    | month | year => cases hunit
    | second | minute | hour =>
      obtain ⟨d, -, h⟩ := Option.bind_eq_some_iff.mp h
      exact kept_of_add? h
    | day | week =>
      -- Days and weeks move by their whole number first, and then by the rest.
      obtain ⟨count, -, h⟩ := Option.bind_eq_some_iff.mp h
      obtain ⟨shifted, hwhole, h⟩ := Option.bind_eq_some_iff.mp h
      obtain ⟨unit', -, h⟩ := Option.bind_eq_some_iff.mp h
      obtain ⟨d, -, h⟩ := Option.bind_eq_some_iff.mp h
      obtain ⟨whole, -, hmoved⟩ := exists_add?_of_shiftWhole? hunit hwhole
      obtain ⟨hoffset, hn⟩ := kept_of_add? h
      exact ⟨hoffset.trans (kept_of_add? hmoved).1, hn⟩

/-! ### Midnights -/

/-- A midnight moved over whole days is another midnight. -/
theorem midnight_add {date : Date} {count : Int} (hd : d.nanos = count * Duration.day.nanos) :
    (ofLocal (.ofDate date) offset).add d = ofLocal (.ofDate (date.addDays count)) offset := by
  have hwhole : d.nanos = (count * 86400) * Duration.perSecond := by
    rw [hd, Int.mul_assoc]
    rfl
  have hnanos : (ofLocal (.ofDate date) offset).utc.nanos < Duration.perSecond :=
    Nat.zero_lt_succ _
  rw [add, LocalTime.add_whole hnanos hwhole]
  simp only [ofLocal, LocalTime.shiftClock, LocalTime.ofDate, Date.dayNumber_addDays,
    LocalTime.perDay, mk.injEq, LocalTime.mk.injEq, and_true]
  omega

theorem eq_midnight_of_shiftWhole? {date : Date} {count : Int}
    (h : (ofLocal (.ofDate date) offset).shiftWhole? count .day = some m) :
    m = ofLocal (.ofDate (date.addDays count)) offset := by
  obtain ⟨d, hd, h⟩ := exists_add?_of_shiftWhole? rfl h
  obtain ⟨rfl, -⟩ := add?_eq_some_iff.mp h
  exact midnight_add hd

section Usual

variable {count : Int} (hyear : 0 ≤ m.localTime.date.year ∧ m.localTime.date.year ≤ 9999)
  (hoffset : -86400 < m.offset ∧ m.offset < 86400)
include hyear hoffset

/-- The midnights about a moment of the years 0 to 9999 are supported, at any offset of less than a
day. -/
theorem isBuilt_midnight (hcount : -1 ≤ count ∧ count ≤ 1) :
    (ofLocal (.ofDate (m.localTime.date.addDays count)) m.offset).IsBuilt m.offset := by
  obtain ⟨hstart, hstop⟩ := Date.dayNumber_of_year hyear.1 hyear.2
  have hfirst : Date.yearStart 0 = -719528 := by decide
  have hlast : Date.yearStart (9999 + 1) = 2932897 := by decide
  constructor
  · rfl
  · rw [Supported, LocalTime.supported_iff]
    simp only [ofLocal, LocalTime.shiftClock, LocalTime.ofDate, LocalTime.perDay,
      Date.dayNumber_addDays]
    omega
  · rw [localTime_ofLocal, LocalTime.Supported, LocalTime.date_ofDate, Date.supported_iff,
      Date.dayNumber_addDays]
    omega

theorem isBuilt_startOfDay : m.startOfDay.IsBuilt m.offset := by
  have hzero : -1 ≤ (0 : Int) ∧ (0 : Int) ≤ 1 := by decide
  have hbuilt := isBuilt_midnight hyear hoffset hzero
  rwa [Date.addDays, Int.add_zero, ← startOfDay_eq] at hbuilt

/-- **The days about a moment** of the years 0 to 9999 start with moments that are supported by
their own clocks. -/
theorem isBuilt_of_shiftWhole?_startOfDay (hcount : -1 ≤ count ∧ count ≤ 1)
    (h : m.startOfDay.shiftWhole? count .day = some n) : n.IsBuilt m.offset := by
  rw [startOfDay_eq] at h
  obtain rfl := eq_midnight_of_shiftWhole? h
  exact isBuilt_midnight hyear hoffset hcount

/-- The days about a moment of the years 0 to 9999 can be come to from the start of its own. -/
theorem shiftWhole?_startOfDay (hcount : -1 ≤ count ∧ count ≤ 1) :
    m.startOfDay.shiftWhole? count .day =
      some (ofLocal (.ofDate (m.localTime.date.addDays count)) m.offset) := by
  have hcounted : IsShiftCount count := ⟨by omega, by omega⟩
  have hmoved : (ofLocal (.ofDate m.localTime.date) m.offset).add ⟨count * Duration.day.nanos⟩ =
      ofLocal (.ofDate (m.localTime.date.addDays count)) m.offset :=
    midnight_add rfl
  rw [startOfDay_eq, shiftWhole?_of_isShiftCount rfl hcounted, add?, hmoved, supported?,
    if_pos (isBuilt_midnight hyear hoffset hcount).supported]

end Usual

end Moment

end Timephrase
