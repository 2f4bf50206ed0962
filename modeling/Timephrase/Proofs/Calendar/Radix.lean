import Timephrase.Proofs.Calendar.Move
import Timephrase.Proofs.Calendar.DayCount

/-!
# Fields as the digits of one number

The day of the month and the fields of the clock are the digits of one number, to the bases of a day,
an hour, a minute and a second.  No digit has to be less than its base, and all of them may be
negative.  What comes of the fields depends on that number alone, so that as much as a field has of
the next larger unit may be written there instead.  The fields that a clock shows lead back to the
moment at which it shows them.

## Main definitions

* `Moment.fieldNanos`: the number that the fields are the digits of

## Main results

* `LocalTime.eq_of_toNanos`: a local time is known by its nanoseconds
* `Moment.toNanos_of_ofCarried?`: the sum of the fields
* `Moment.eq_iff_of_ofCarried?`: fields that come to the same moment
* `Moment.ofCarried?_fields`: a moment is found from its own fields
* `Moment.carried_fields_add_up`: all of this together
-/

namespace Timephrase

namespace LocalTime

variable {t u : LocalTime} {date : Date} {hour minute second nanos : Int}

/-- Outside leap seconds a local time is known by its nanoseconds. -/
theorem eq_of_toNanos (ht : t.isLeap = false) (hu : u.isLeap = false)
    (h : t.toNanos = u.toNanos) : t = u := by
  have ht := nanos_lt ht
  have hu := nanos_lt hu
  rcases t with ⟨seconds, nanos⟩
  rcases u with ⟨seconds', nanos'⟩
  simp only [toNanos, Duration.perSecond, mk.injEq] at ht hu h ⊢
  omega

theorem toNanos_ofFields : (ofFields date hour minute second nanos).toNanos =
    (ofDate date).toNanos +
      ((hour * 3600 + minute * 60 + second) * Duration.perSecond + nanos) := by
  unfold ofFields
  rw [toNanos_ofNanos]
  simp only [toNanos, ofDate, perDay, Duration.perSecond]
  omega

/-- A local time laid on its own date is itself. -/
theorem withDate_date (t : LocalTime) : t.withDate t.date = t := by
  unfold withDate
  rw [← t.seconds_eq]

end LocalTime

namespace Moment

variable {year day hour minute second nanos offset : Int} {month : Nat} {m m' : Moment}

/-! ## The sum of the fields -/

/-- The nanoseconds that a day and the fields of a clock come to. -/
def fieldNanos (day hour minute second nanos : Int) : Int :=
  (((day * 24 + hour) * 60 + minute) * 60 + second) * Duration.perSecond + nanos

section Exchange

variable (n : Int)

/-- Sixty minutes for each hour more leave the number as it is. -/
theorem fieldNanos_add_hour :
    fieldNanos day (hour + n) (minute - 60 * n) second nanos =
      fieldNanos day hour minute second nanos := by
  simp only [fieldNanos, Duration.perSecond]
  omega

/-- Twenty-four hours for each day more leave the number as it is. -/
theorem fieldNanos_add_day :
    fieldNanos (day + n) (hour - 24 * n) minute second nanos =
      fieldNanos day hour minute second nanos := by
  simp only [fieldNanos, Duration.perSecond]
  omega

/-- A milliard of nanoseconds for each second more leaves the number as it is. -/
theorem fieldNanos_add_second :
    fieldNanos day hour minute (second + n) (nanos - Duration.perSecond * n) =
      fieldNanos day hour minute second nanos := by
  simp only [fieldNanos, Duration.perSecond]
  omega

end Exchange

/-- No fields come to a leap second. -/
theorem isLeap_of_ofCarried?
    (h : ofCarried? year month day hour minute second nanos offset = some m) :
    m.utc.isLeap = false := by
  obtain ⟨-, date, -, hshown⟩ := localTime_of_ofCarried? h
  rw [← m.isLeap_localTime, hshown]
  exact LocalTime.isLeap_ofNanos _

/-- **The fields are added up**: the clock shows as much time after the midnight of the date that is
counted on from the first of the month as its other fields come to. -/
theorem toNanos_of_ofCarried?
    (h : ofCarried? year month day hour minute second nanos offset = some m) :
    ∃ date, Date.rolled? year month day = some date ∧
      m.localTime.toNanos = (LocalTime.ofDate date).toNanos +
        ((hour * 3600 + minute * 60 + second) * Duration.perSecond + nanos) := by
  obtain ⟨-, date, hdate, hshown⟩ := localTime_of_ofCarried? h
  refine ⟨date, hdate, ?_⟩
  rw [hshown]
  exact LocalTime.toNanos_ofFields

/-- The nanoseconds that the clock shows are those of the fields, with the day counted from the day
before the first of the month. -/
theorem toNanos_eq_fieldNanos
    (h : ofCarried? year month day hour minute second nanos offset = some m) :
    m.localTime.toNanos =
      fieldNanos ((Date.ofFields year month 0).dayNumber + day) hour minute second nanos := by
  obtain ⟨date, hdate, hsum⟩ := toNanos_of_ofCarried? h
  have hmonth := Date.month_of_rolled? hdate
  obtain ⟨rfl, -, -⟩ := (Date.rolled?_eq_some_iff hmonth).mp hdate
  rw [hsum]
  simp only [fieldNanos, LocalTime.toNanos, LocalTime.ofDate, LocalTime.perDay, Date.ofFields,
    Duration.perSecond]
  omega

/-- **Fields come to the same moment** just if they are the digits of the same number. -/
theorem eq_iff_of_ofCarried? {day' hour' minute' second' nanos' : Int}
    (h : ofCarried? year month day hour minute second nanos offset = some m)
    (h' : ofCarried? year month day' hour' minute' second' nanos' offset = some m') :
    m = m' ↔
      fieldNanos day hour minute second nanos = fieldNanos day' hour' minute' second' nanos' := by
  have hsum := toNanos_eq_fieldNanos h
  have hsum' := toNanos_eq_fieldNanos h'
  simp only [fieldNanos, Duration.perSecond] at hsum hsum' ⊢
  constructor
  · rintro rfl
    omega
  · intro heq
    -- Both clocks show the same, and their offsets are the one that was asked for.
    have hleap : m.localTime.isLeap = false := isLeap_of_ofCarried? h
    have hleap' : m'.localTime.isLeap = false := isLeap_of_ofCarried? h'
    have hshown : m.localTime = m'.localTime := by
      apply LocalTime.eq_of_toNanos hleap hleap'
      omega
    rw [← m.ofLocal_localTime, ← m'.ofLocal_localTime, hshown, (localTime_of_ofCarried? h).1,
      (localTime_of_ofCarried? h').1]

/-! ## Own fields -/

/-- **A moment is found from its own fields**, if its clock shows a supported time and no leap
second. -/
theorem ofCarried?_fields (hleap : m.localTime.isLeap = false) (hm : m.Supported)
    (hshown : m.localTime.Supported) :
    ofCarried? m.localTime.date.year m.localTime.date.month m.localTime.date.day m.localTime.hour
      m.localTime.minute m.localTime.second m.localTime.nanos m.offset = some m := by
  -- No field is too large for its place, so that nothing is carried.
  have hhour := m.localTime.hour_lt
  have hminute := m.localTime.minute_lt
  rw [ofCarried?_date hleap hshown (by omega) (by omega), LocalTime.ofFields_clock hleap,
    LocalTime.withDate_date]
  exact shownAt?_eq_some_iff.mpr ⟨m.ofLocal_localTime.symm, hshown, hm⟩

/-- **The fields of a moment add up.**  If there is a moment of some fields, then it has the offset
asked for, and its clock shows exactly as much time after the midnight of the date that is counted on
from the first of the month as the hours, minutes, seconds and nanoseconds come to, and no leap
second.  So sixty minutes may be exchanged for an hour, twenty-four hours for a day and a milliard of
nanoseconds for a second, any number of times and in either direction: the moment is the same if
there is one both times.  And a moment outside leap seconds whose clock shows a supported time is
found from the fields that it shows. -/
theorem carried_fields_add_up (year : Int) (month : Nat)
    (day hour minute second nanos offset : Int) :
    (∀ m, ofCarried? year month day hour minute second nanos offset = some m →
      m.offset = offset ∧ m.localTime.isLeap = false ∧
      (∃ date, Date.rolled? year month day = some date ∧
        m.localTime.toNanos = (LocalTime.ofDate date).toNanos +
          ((hour * 3600 + minute * 60 + second) * Duration.perSecond + nanos)) ∧
      ∀ n m',
        ofCarried? year month day (hour + n) (minute - 60 * n) second nanos offset = some m' ∨
        ofCarried? year month (day + n) (hour - 24 * n) minute second nanos offset = some m' ∨
        ofCarried? year month day hour minute (second + n) (nanos - Duration.perSecond * n)
          offset = some m' → m' = m) ∧
    (∀ m : Moment, m.Supported → m.localTime.Supported → m.localTime.isLeap = false →
      ofCarried? m.localTime.date.year m.localTime.date.month m.localTime.date.day
        m.localTime.hour m.localTime.minute m.localTime.second m.localTime.nanos m.offset =
          some m) := by
  refine ⟨fun m h => ?_, fun m hm hshown hleap => ofCarried?_fields hleap hm hshown⟩
  refine ⟨(localTime_of_ofCarried? h).1, isLeap_of_ofCarried? h, toNanos_of_ofCarried? h, ?_⟩
  rintro n m' (h' | h' | h')
  · exact (eq_iff_of_ofCarried? h' h).mpr (fieldNanos_add_hour n)
  · exact (eq_iff_of_ofCarried? h' h).mpr (fieldNanos_add_day n)
  · exact (eq_iff_of_ofCarried? h' h).mpr (fieldNanos_add_second n)

/-- Five hours before 1 November, which is counted as a day of October, and 375 minutes after that;
the same with six hours for 360 of the minutes.  And a moment of the same day from what it shows. -/
theorem carried_fields_of_hours_back :
    ofCarried? 1985 10 32 (-5) 375 0 0 3600 = some ⟨⟨499652100, 0⟩, 3600⟩ ∧
      ofCarried? 1985 10 32 (-5 + 6) (375 - 60 * 6) 0 0 3600 =
        some ⟨⟨499652100, 0⟩, 3600⟩ ∧
      ofCarried? 1985 11 1 1 15 0 250000000 3600 = some ⟨⟨499652100, 250000000⟩, 3600⟩ := by
  obtain ⟨hcarried, hown⟩ := carried_fields_add_up 1985 10 32 (-5) 375 0 0 3600
  have hback : ofCarried? 1985 10 32 (-5) 375 0 0 3600 = some ⟨⟨499652100, 0⟩, 3600⟩ := by
    decide +kernel
  obtain ⟨r, hr⟩ : ∃ r, ofCarried? 1985 10 32 (-5 + 6) (375 - 60 * 6) 0 0 3600 = some r :=
    Option.isSome_iff_exists.mp (by decide +kernel)
  obtain ⟨-, -, -, hexchange⟩ := hcarried _ hback
  refine ⟨hback, ?_, ?_⟩
  · rw [hr, hexchange 6 r (Or.inl hr)]
  · exact hown ⟨⟨499652100, 250000000⟩, 3600⟩ (by decide +kernel) (by decide +kernel)
      (by decide +kernel)

end Moment

end Timephrase
