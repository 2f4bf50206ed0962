import Timephrase.Proofs.Calendar.Fields

/-!
# Days past the end of a month

Days are counted on from the first of a month whatever the month's length.  So the days past its end
are those of the months that follow, and day zero is the last of the month before.  A time of day
that is taken apart is found again on whatever date it is laid.

## Main definitions

* `Date.monthAfter`, `Date.monthBefore`: the months about a month, with their years
* `Date.HasFields`: the year, the month and the day of the month of a date

## Main results

* `Date.ofFields_add_monthLength`: the days past the end of a month
* `Date.ofFields_day_zero`: the day before the first of a month
* `LocalTime.ofFields_clock`: the time of day laid on another date
* `Moment.ofCarried?_clock`, `Moment.ofCarried?_date`: a time of day on another date, and other hours
  and minutes on the same one
-/

namespace Timephrase

namespace Date

variable {year day : Int} {month n : Nat}

/-- The month after a month, which is the first of the next year after December. -/
def monthAfter (year : Int) (month : Nat) : Int × Nat :=
  if month = 12 then (year + 1, 1) else (year, month + 1)

/-- The month before a month, which is the last of the year before January. -/
def monthBefore (year : Int) (month : Nat) : Int × Nat :=
  if month = 1 then (year - 1, 12) else (year, month - 1)

theorem monthAfter_monthBefore (hmonth : 1 ≤ month ∧ month ≤ 12) :
    monthAfter (monthBefore year month).1 (monthBefore year month).2 = (year, month) := by
  unfold monthBefore
  by_cases h : month = 1
  · rw [if_pos h, monthAfter, if_pos rfl, Int.sub_add_cancel, h]
  · rw [if_neg h, monthAfter, if_neg (by omega), Nat.sub_add_cancel hmonth.1]

theorem month_of_monthBefore (hmonth : 1 ≤ month ∧ month ≤ 12) :
    1 ≤ (monthBefore year month).2 ∧ (monthBefore year month).2 ≤ 12 := by
  unfold monthBefore
  split
  · dsimp only
    decide
  · dsimp only
    omega

theorem month_of_monthAfter (hmonth : 1 ≤ month ∧ month ≤ 12) :
    1 ≤ (monthAfter year month).2 ∧ (monthAfter year month).2 ≤ 12 := by
  unfold monthAfter
  split
  · dsimp only
    decide
  · dsimp only
    omega

/-- The first months of a year and the one after them. -/
theorem total_take_succ (lengths : List Nat) (n : Nat) :
    total (lengths.take (n + 1)) = total (lengths.take n) + lengths.getD n 0 := by
  induction lengths generalizing n with
  | nil => simp [total]
  | cons length rest ih =>
    cases n with
    | zero => exact Nat.add_comm length 0
    | succ n =>
      have htotal : total ((length :: rest).take (n + 2)) =
          length + total (rest.take (n + 1)) := rfl
      have htotal' : total ((length :: rest).take (n + 1)) = length + total (rest.take n) := rfl
      rw [htotal, htotal', ih, Nat.add_assoc, List.getD_cons_succ]

/-- The days up to the end of a month are those before the next one of the year. -/
theorem daysBefore_succ (hmonth : 1 ≤ month) :
    daysBefore year (month + 1) = daysBefore year month + monthLength year month := by
  obtain ⟨n, rfl⟩ := Nat.exists_eq_add_of_le' hmonth
  exact total_take_succ (monthLengths (isLeap year)) n

/-- **The days past the end of a month** are those of the month after. -/
theorem ofFields_add_monthLength (hmonth : 1 ≤ month ∧ month ≤ 12) (day : Int) :
    ofFields year month (monthLength year month + day) =
      ofFields (monthAfter year month).1 (monthAfter year month).2 day := by
  have hsucc : daysBefore year (month + 1) = daysBefore year month + monthLength year month :=
    daysBefore_succ hmonth.1
  unfold monthAfter
  by_cases h : month = 12
  · -- After December the year is over, and none of the next one has passed.
    subst h
    have hyear : yearStart (year + 1) = yearStart year + daysBefore year (12 + 1) :=
      yearStart_succ year
    have hnone : daysBefore (year + 1) 1 = 0 := rfl
    rw [if_pos rfl, ofFields, ofFields]
    dsimp only
    rw [hnone, hyear, hsucc]
    congr 1
    omega
  · rw [if_neg h, ofFields, ofFields]
    dsimp only
    rw [hsucc]
    congr 1
    omega

/-- **The day before the first of a month** is the last one of the month before. -/
theorem ofFields_day_zero (hmonth : 1 ≤ month ∧ month ≤ 12) :
    ofFields year month 0 = ofFields (monthBefore year month).1 (monthBefore year month).2
      (monthLength (monthBefore year month).1 (monthBefore year month).2) := by
  have hbefore : 1 ≤ (monthBefore year month).2 ∧ (monthBefore year month).2 ≤ 12 :=
    month_of_monthBefore hmonth
  have hroll : ofFields (monthBefore year month).1 (monthBefore year month).2
      (monthLength (monthBefore year month).1 (monthBefore year month).2 + 0) = _ :=
    ofFields_add_monthLength hbefore 0
  rw [monthAfter_monthBefore hmonth, Int.add_zero] at hroll
  exact hroll.symm

/-- The year, the month and the day of the month of a date. -/
def HasFields (d : Date) (year : Int) (month : Nat) (day : Int) : Prop :=
  d.year = year ∧ d.month = month ∧ (d.day : Int) = day

instance (d : Date) (year : Int) (month : Nat) (day : Int) :
    Decidable (d.HasFields year month day) :=
  inferInstanceAs (Decidable (_ ∧ _))

/-- A day of a month is the one that it is counted as. -/
theorem hasFields_ofFields (hmonth : 1 ≤ month) (hday : 1 ≤ day)
    (hle : day ≤ monthLength year month) : (ofFields year month day).HasFields year month day := by
  obtain ⟨n, rfl⟩ := Int.eq_ofNat_of_zero_le (Int.le_trans Int.one_nonneg hday)
  have hvalid : IsValid year month n := ⟨hmonth, by omega, by omega⟩
  exact ⟨hvalid.year_eq, hvalid.month_eq, congrArg Nat.cast hvalid.day_eq⟩

theorem hasFields_first (hmonth : 1 ≤ month ∧ month ≤ 12) :
    (ofFields year month 1).HasFields year month 1 :=
  hasFields_ofFields hmonth.1 (Int.le_refl 1) (by exact_mod_cast monthLength_pos hmonth)

theorem hasFields_day_zero (hmonth : 1 ≤ month ∧ month ≤ 12) :
    (ofFields year month 0).HasFields (monthBefore year month).1 (monthBefore year month).2
      (monthLength (monthBefore year month).1 (monthBefore year month).2) := by
  have hbefore : 1 ≤ (monthBefore year month).2 ∧ (monthBefore year month).2 ≤ 12 :=
    month_of_monthBefore hmonth
  rw [ofFields_day_zero hmonth]
  exact hasFields_ofFields hbefore.1 (by exact_mod_cast monthLength_pos hbefore) (Int.le_refl _)

end Date

namespace LocalTime

variable {t : LocalTime}

theorem hour_lt (t : LocalTime) : t.hour < 24 := by
  have hlt : t.secondOfDay < 86400 := t.secondOfDay_lt
  unfold hour
  omega

theorem minute_lt (t : LocalTime) : t.minute < 60 := Nat.mod_lt _ (by decide)

theorem second_lt (t : LocalTime) : t.second < 60 := Nat.mod_lt _ (by decide)

theorem nanos_lt (h : t.isLeap = false) : t.nanos < Duration.perSecond :=
  Nat.not_le.mp (of_decide_eq_false h)

/-- The fields of a clock make up the time of day. -/
theorem secondOfDay_eq (t : LocalTime) :
    t.secondOfDay = t.hour * 3600 + t.minute * 60 + t.second := by
  unfold hour minute second
  omega

/-- **A time of day that is taken apart** is found again on whatever date it is laid, outside leap
seconds. -/
theorem ofFields_clock (h : t.isLeap = false) (date : Date) :
    ofFields date t.hour t.minute t.second t.nanos = t.withDate date := by
  rw [ofFields_eq (nanos_lt h), withDate, secondOfDay_eq, perDay]
  congr 1
  omega

theorem secondOfDay_withDate (t : LocalTime) (d : Date) :
    (t.withDate d).secondOfDay = t.secondOfDay := by
  have hlt : t.secondOfDay < perDay := t.secondOfDay_lt
  rw [withDate, secondOfDay]
  simp only [perDay] at hlt ⊢
  omega

theorem supported_withDate {d : Date} : (t.withDate d).Supported ↔ d.Supported := by
  rw [Supported, date_withDate]

end LocalTime

namespace Moment

variable {t : LocalTime} {year day offset : Int} {month : Nat}

/-- **The moment of a time of day on another date**, the time of day taken apart before. -/
theorem ofCarried?_clock (h : t.isLeap = false) (hmonth : 1 ≤ month ∧ month ≤ 12)
    (hfirst : Date.firstYear ≤ year) (hlast : year ≤ Date.lastYear) :
    ofCarried? year month day t.hour t.minute t.second t.nanos offset =
      shownAt? (t.withDate (.ofFields year month day)) offset := by
  have hhour := t.hour_lt
  have hminute := t.minute_lt
  have hsecond := t.second_lt
  have hnanos : t.nanos < 1000000000 := LocalTime.nanos_lt h
  rw [ofCarried?_eq (by omega) (by omega) (by omega) (by omega), Date.rolled?_eq hmonth hfirst hlast,
    Date.supported?]
  split
  · rw [Option.bind_some, LocalTime.ofFields_clock h]
  · next hdate =>
    rw [shownAt?, if_neg (mt LocalTime.supported_withDate.mp hdate)]
    rfl

/-- **The moment of other hours and minutes on a date** that the clock shows. -/
theorem ofCarried?_date {hour minute : Int} (h : t.isLeap = false) (ht : t.Supported)
    (hhour : 0 ≤ hour ∧ hour ≤ 1000000) (hminute : 0 ≤ minute ∧ minute ≤ 1000000) :
    ofCarried? t.date.year t.date.month t.date.day hour minute t.second t.nanos offset =
      shownAt? (.ofFields t.date hour minute t.second t.nanos) offset := by
  have hsecond := t.second_lt
  have hnanos : t.nanos < 1000000000 := LocalTime.nanos_lt h
  rw [ofCarried?_eq hhour hminute (by omega) (by omega), Date.rolled?_fields ht, Option.bind_some]

end Moment

end Timephrase
