import Timephrase.Proofs.Calendar.Rollover

/-!
# Moves over months and years

A move over months counts the months of all years in one row, January of the year zero being zero.
The day of the month is counted on from the first of the new month, so that a day which it lacks
falls into the month after.  The first days of the months follow one another, and with them the days
that are counted on from them: a move over more months comes to a later moment.

## Main definitions

* `Date.monthStart`: the first day of the month with a number
* `Moment.Before`: one moment is earlier than another
* `Moment.IsOnDate`: a moment laid on another date

## Main results

* `Date.monthStart_lt`: the first days of the months follow one another
* `Date.hasFields_spilled`: the day that a day of the month comes to in another month
* `Moment.addMonths?_eq_some_iff`: what a move over months comes to, if anything
* `Moment.before_of_addMonths?`: a move over more months comes to a later moment
* `Moment.month_shift_follows_calendar`: moves over months and years
-/

namespace Timephrase

namespace Date

variable {year index : Int} {month : Nat}

/-! ## Months in one row -/

/-- The first day of the month with a number, January of the year zero being zero. -/
def monthStart (index : Int) : Date := ofFields (index / 12) ((index % 12).toNat + 1) 1

/-- The year and the month with a number. -/
theorem eq_of_monthIndex (hmonth : 1 ≤ month ∧ month ≤ 12)
    (hindex : 12 * year + (month - 1) = index) :
    index / 12 = year ∧ (index % 12).toNat + 1 = month := by
  omega

theorem month_of_index (index : Int) :
    1 ≤ (index % 12).toNat + 1 ∧ (index % 12).toNat + 1 ≤ 12 := by
  omega

/-- Every number is that of a month. -/
theorem exists_month (index : Int) :
    ∃ (year : Int) (month : Nat), (1 ≤ month ∧ month ≤ 12) ∧ 12 * year + (month - 1) = index := by
  refine ⟨index / 12, (index % 12).toNat + 1, month_of_index index, ?_⟩
  omega

theorem monthAfter_index (index : Int) :
    monthAfter (index / 12) ((index % 12).toNat + 1) =
      ((index + 1) / 12, ((index + 1) % 12).toNat + 1) := by
  unfold monthAfter
  by_cases h : (index % 12).toNat + 1 = 12
  · rw [if_pos h, Prod.mk.injEq]
    omega
  · rw [if_neg h, Prod.mk.injEq]
    omega

/-- A month starts when the one before it is over. -/
theorem dayNumber_monthStart_succ (index : Int) :
    (monthStart (index + 1)).dayNumber = (monthStart index).dayNumber +
      monthLength (index / 12) ((index % 12).toNat + 1) := by
  have hroll : ofFields (index / 12) ((index % 12).toNat + 1)
      (monthLength (index / 12) ((index % 12).toNat + 1) + 1) = _ :=
    ofFields_add_monthLength (month_of_index index) 1
  rw [monthAfter_index] at hroll
  rw [monthStart, ← hroll, monthStart, ofFields, ofFields]
  dsimp only
  omega

/-- **The first days of the months follow one another.** -/
theorem monthStart_lt {index index' : Int} (h : index < index') :
    (monthStart index).dayNumber < (monthStart index').dayNumber := by
  obtain ⟨k, rfl⟩ := Int.le.dest (Int.add_one_le_of_lt h)
  have hstep : ∀ index : Int,
      (monthStart index).dayNumber < (monthStart (index + 1)).dayNumber := by
    intro index
    have hlength : 1 ≤ monthLength (index / 12) ((index % 12).toNat + 1) :=
      monthLength_pos (month_of_index index)
    rw [dayNumber_monthStart_succ]
    omega
  clear h
  -- On the number of months between.
  induction k with
  | zero =>
    rw [Int.natCast_zero, Int.add_zero]
    exact hstep index
  | succ k ih =>
    rw [Int.natCast_succ, ← Int.add_assoc]
    exact Int.lt_trans ih (hstep _)

/-! ## Days that a month lacks -/

/-- **The day that a day of the month comes to in another month**: the same one if that month has
it, or else one of the month after, by as many days as there are too many. -/
theorem hasFields_spilled (year : Int) {month day : Nat} (hmonth : 1 ≤ month ∧ month ≤ 12)
    (hday : 1 ≤ day ∧ day ≤ 31) :
    (day ≤ monthLength year month → (ofFields year month day).HasFields year month day) ∧
    (monthLength year month < day → (ofFields year month day).HasFields
      (monthAfter year month).1 (monthAfter year month).2 (day - monthLength year month : Nat)) := by
  refine ⟨fun hle => ?_, fun hlt => ?_⟩
  · exact hasFields_ofFields hmonth.1 (by omega) (by exact_mod_cast hle)
  · -- No month is so short that more than three days are left for the one after.
    obtain ⟨rest, rfl⟩ := Nat.exists_eq_add_of_lt hlt
    have hlength : 28 ≤ monthLength year month := le_monthLength hmonth
    have hafter : 1 ≤ (monthAfter year month).2 ∧ (monthAfter year month).2 ≤ 12 :=
      month_of_monthAfter hmonth
    have hnext : 28 ≤ monthLength (monthAfter year month).1 (monthAfter year month).2 :=
      le_monthLength hafter
    have hrest : monthLength year month + rest + 1 - monthLength year month = rest + 1 := by omega
    have hday : ((monthLength year month + rest + 1 : Nat) : Int) =
        monthLength year month + (rest + 1 : Nat) := by
      omega
    rw [hrest, hday, ofFields_add_monthLength hmonth]
    exact hasFields_ofFields hafter.1 (by omega) (by omega)

theorem day_bounds (d : Date) : 1 ≤ d.day ∧ d.day ≤ 31 :=
  ⟨d.isValid_fields.day_pos, Nat.le_trans d.isValid_fields.day_le (monthLength_le _ _)⟩

end Date

namespace Moment

variable {m r : Moment} {year months : Int} {month : Nat} {date : Date}

/-- One moment is earlier than another. -/
def Before (m n : Moment) : Prop :=
  m.utc.seconds < n.utc.seconds ∨ m.utc.seconds = n.utc.seconds ∧ m.utc.nanos < n.utc.nanos

/-- A moment is another one laid on a date: it shows the date, at the time of day and the offset of
the other. -/
structure IsOnDate (date : Date) (m r : Moment) : Prop where
  date_eq : r.localTime.date = date
  secondOfDay_eq : r.localTime.secondOfDay = m.localTime.secondOfDay
  nanos_eq : r.localTime.nanos = m.localTime.nanos
  offset_eq : r.offset = m.offset

/-- There is one such moment. -/
theorem isOnDate_iff :
    IsOnDate date m r ↔ r = ofLocal (m.localTime.withDate date) m.offset := by
  constructor
  · rintro ⟨hdate, hsecond, hnanos, hoffset⟩
    have hshown : r.localTime = m.localTime.withDate date := by
      have hseconds := r.localTime.seconds_eq
      rw [hdate, hsecond] at hseconds
      rw [LocalTime.withDate, ← hseconds, ← hnanos]
    rw [← hshown, ← hoffset, ofLocal_localTime]
  · rintro rfl
    constructor
    · rw [localTime_ofLocal, LocalTime.date_withDate]
    · rw [localTime_ofLocal, LocalTime.secondOfDay_withDate]
    · rw [localTime_ofLocal]
      rfl
    · rfl

/-! ## Moves over months -/

section

variable (hmonth : 1 ≤ month ∧ month ≤ 12)
  (hindex : 12 * year + (month - 1) = m.monthIndex + months)

include hmonth hindex

/-- **A move over months comes to** the day of the month counted on from the first of the new month,
if this first day, the date and the moment are supported. -/
theorem addMonths?_eq_some_iff : m.addMonths? months = some r ↔
    (Date.ofFields year month 1).Supported ∧
      (Date.ofFields year month m.localTime.date.day).Supported ∧ r.Supported ∧
      IsOnDate (.ofFields year month m.localTime.date.day) m r := by
  obtain ⟨hyear, hmonth'⟩ := Date.eq_of_monthIndex hmonth hindex
  have hmoved : m.addMonths? months = (Date.rolled? year month m.localTime.date.day).bind
      fun date => ofLocal? (m.localTime.withDate date) m.offset := by
    rw [← hyear, ← hmonth']
    rfl
  rw [hmoved, Option.bind_eq_some_iff]
  constructor
  · rintro ⟨date, hdate, hr⟩
    obtain ⟨rfl, hfirst, hsupported⟩ := (Date.rolled?_eq_some_iff hmonth).mp hdate
    obtain ⟨rfl, hmoment⟩ := ofLocal?_eq_some_iff.mp hr
    exact ⟨hfirst, hsupported, hmoment, isOnDate_iff.mpr rfl⟩
  · rintro ⟨hfirst, hsupported, hmoment, hr⟩
    exact ⟨_, (Date.rolled?_eq_some_iff hmonth).mpr ⟨rfl, hfirst, hsupported⟩,
      ofLocal?_eq_some_iff.mpr ⟨(isOnDate_iff.mp hr).symm, hmoment⟩⟩

theorem addMonths?_eq_none_iff : m.addMonths? months = none ↔
    ¬(Date.ofFields year month 1).Supported ∨
      ¬(Date.ofFields year month m.localTime.date.day).Supported ∨
      ∀ r, IsOnDate (.ofFields year month m.localTime.date.day) m r → ¬r.Supported := by
  rw [Option.eq_none_iff_forall_ne_some]
  constructor
  · intro hnone
    by_cases hfirst : (Date.ofFields year month 1).Supported
    · by_cases hsupported : (Date.ofFields year month m.localTime.date.day).Supported
      · refine Or.inr (Or.inr fun r hr hmoment => ?_)
        exact hnone r
          ((addMonths?_eq_some_iff hmonth hindex).mpr ⟨hfirst, hsupported, hmoment, hr⟩)
      · exact Or.inr (Or.inl hsupported)
    · exact Or.inl hfirst
  · intro hnot r hmoved
    obtain ⟨hfirst, hsupported, hmoment, hr⟩ := (addMonths?_eq_some_iff hmonth hindex).mp hmoved
    rcases hnot with hnot | hnot | hnot
    · exact hnot hfirst
    · exact hnot hsupported
    · exact hnot r hr hmoment

end

/-- **A move over more months** comes to a later moment. -/
theorem before_of_addMonths? {months' : Int} {r' : Moment} (hlt : months < months')
    (h : m.addMonths? months = some r) (h' : m.addMonths? months' = some r') : r.Before r' := by
  -- Both count the same day of the month on from first days that follow one another.
  have hseconds : ∀ {months r}, m.addMonths? months = some r → r.utc.seconds =
      ((Date.monthStart (m.monthIndex + months)).dayNumber + (m.localTime.date.day - 1)) * 86400 +
        m.localTime.secondOfDay - m.offset := by
    intro months r h
    have hindex : 12 * ((m.monthIndex + months) / 12) +
        ((((m.monthIndex + months) % 12).toNat + 1 : Nat) - 1) = m.monthIndex + months := by
      omega
    obtain ⟨-, -, -, hr⟩ := (addMonths?_eq_some_iff (Date.month_of_index _) hindex).mp h
    obtain rfl := isOnDate_iff.mp hr
    simp only [ofLocal, LocalTime.shiftClock, LocalTime.withDate, LocalTime.perDay, Date.monthStart,
      Date.ofFields]
    omega
  have hstart : (Date.monthStart (m.monthIndex + months)).dayNumber <
      (Date.monthStart (m.monthIndex + months')).dayNumber :=
    Date.monthStart_lt (by omega)
  refine Or.inl ?_
  rw [hseconds h, hseconds h']
  omega

/-- **Moves over months and years follow the calendar.**  The months of all years are counted in one
row, of which the move goes a number of months on or back, and comes to a year and a month.  If
there is a result, it is the moment laid on the date that is as many days after the first of this
month as the day of the month says: with the time of day and the offset of the moment.  That is the
same day of the month if the month has it, and otherwise the days that are too many are those of the
month after.  There is no result just if the first of the month is not supported, or the date is
not, or the moment is not by universal time.  A move over more months that has a result too comes to
a later moment.  A move over years is one over twelve times as many months. -/
theorem month_shift_follows_calendar (m : Moment) (n : Int) :
    ∃ (year : Int) (month : Nat), (1 ≤ month ∧ month ≤ 12) ∧
      12 * year + (month - 1) =
        12 * m.localTime.date.year + (m.localTime.date.month - 1) + n ∧
      ∃ first date : Date, first.HasFields year month 1 ∧
        date = first.addDays (m.localTime.date.day - 1) ∧
        (∀ r, m.shiftWhole? n .month = some r → IsOnDate date m r) ∧
        (m.localTime.date.day ≤ Date.monthLength year month →
          date.HasFields year month m.localTime.date.day) ∧
        (Date.monthLength year month < m.localTime.date.day →
          date.HasFields (Date.monthAfter year month).1 (Date.monthAfter year month).2
            (m.localTime.date.day - Date.monthLength year month : Nat)) ∧
        (m.shiftWhole? n .month = none ↔ ¬first.Supported ∨ ¬date.Supported ∨
          ∀ r, IsOnDate date m r → ¬r.Supported) ∧
        (∀ n' r r', n < n' → m.shiftWhole? n .month = some r →
          m.shiftWhole? n' .month = some r' → r.Before r') ∧
        m.shiftWhole? n .year = m.shiftWhole? (12 * n) .month := by
  -- The index of the new month gives the year it is in and its place there.
  have hmonth := Date.month_of_index (m.monthIndex + n)
  have hindex : 12 * ((m.monthIndex + n) / 12) +
      ((((m.monthIndex + n) % 12).toNat + 1 : Nat) - 1) = m.monthIndex + n := by
    omega
  generalize (m.monthIndex + n) / 12 = year at hmonth hindex
  generalize ((m.monthIndex + n) % 12).toNat + 1 = month at hmonth hindex
  obtain ⟨hkept, hspilled⟩ := Date.hasFields_spilled year hmonth m.localTime.date.day_bounds
  have hpos := m.localTime.date.isValid_fields.month_pos
  refine ⟨year, month, hmonth, ?_, .ofFields year month 1, .ofFields year month _,
    Date.hasFields_first hmonth, (Date.ofFields_first _ _ _).symm, fun r hr => ?_, hkept, hspilled,
    addMonths?_eq_none_iff hmonth hindex, fun n' r r' => before_of_addMonths?, rfl⟩
  · rw [hindex, monthIndex]
    omega
  · exact ((addMonths?_eq_some_iff hmonth hindex).mp hr).2.2.2

/-- A month after 31 January is 3 March in a common year. -/
example : (⟨⟨1675152000, 0⟩, 0⟩ : Moment).shiftWhole? 1 .month = some ⟨⟨1677830400, 0⟩, 0⟩ := by
  decide +kernel

end Moment

end Timephrase
