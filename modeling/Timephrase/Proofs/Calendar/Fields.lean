import Timephrase.Proofs.Calendar.Carry

/-!
# The fields of a date

The number of a date is found from its year, its month and its day of the month, and these are read
off the number again.

## Main definitions

* `Date.IsValid`: a year, a month and a day of the month that a date has
* `Moment.onMinute`: the moment at which a clock shows a full minute of a date

## Main results

* `Date.splitMonths_total`, `Date.splitMonths_spec`: days into months, and back
* `Date.IsValid.year_eq`, `Date.IsValid.month_eq`, `Date.IsValid.day_eq`: the fields of the date that
  is found
* `Date.isValid_fields`, `Date.ofFields_fields`: the date that is found from the fields
* `Date.rolled?_eq`: a date that is counted on from the first of a month is found just if it is
  supported
* `Date.IsValid.rolled?_eq`: a valid day needs no rolling over
* `Moment.ofCarried?_eq_onMinute`: the moment that is found from the fields
-/

namespace Timephrase

namespace Date

variable {lengths : List Nat} {months days n : Nat}

/-! ## Months of a year -/

/-- The days of the months before one and some days of its own come to this month and these days. -/
theorem splitMonths_total (h : days < lengths.getD months 0) :
    splitMonths lengths (total (lengths.take months) + days) = (months, days) := by
  -- On the months: all of one are passed over until the days fit into the next.
  induction lengths generalizing months with
  | nil => cases h
  | cons length rest ih =>
    cases months with
    | zero =>
      have hlength : days < length := h
      have htotal : total ((length :: rest).take 0) + days = days := Nat.zero_add days
      rw [htotal, splitMonths, if_pos hlength]
    | succ months =>
      have htotal : total ((length :: rest).take (months + 1)) + days =
          length + (total (rest.take months) + days) := Nat.add_assoc _ _ _
      rw [htotal, splitMonths, if_neg (by omega), Nat.add_sub_cancel_left, ih h]

/-- Some days of a year come to a month of it and a day of the month. -/
theorem splitMonths_spec (h : n < total lengths) :
    (splitMonths lengths n).2 < lengths.getD (splitMonths lengths n).1 0 ∧
      total (lengths.take (splitMonths lengths n).1) + (splitMonths lengths n).2 = n := by
  induction lengths generalizing n with
  | nil => cases h
  | cons length rest ih =>
    rw [splitMonths]
    split
    · next hlt => exact ⟨hlt, Nat.zero_add n⟩
    · next hge =>
      have hall : total (length :: rest) = length + total rest := rfl
      obtain ⟨hdays, hsum⟩ := ih (n := n - length) (by omega)
      have htotal : total ((length :: rest).take ((splitMonths rest (n - length)).1 + 1)) =
          length + total (rest.take (splitMonths rest (n - length)).1) := rfl
      refine ⟨hdays, ?_⟩
      dsimp only
      rw [htotal]
      omega

theorem length_monthLengths (leap : Bool) : (monthLengths leap).length = 12 := rfl

/-- A month with days in it is one of the twelve. -/
theorem lt_twelve_of_lt {leap : Bool} (h : days < (monthLengths leap).getD months 0) :
    months < 12 := by
  have hlt : months < (monthLengths leap).length := by
    refine Nat.lt_of_not_le fun hle => ?_
    rw [List.getD_eq_getElem?_getD, List.getElem?_eq_none hle] at h
    cases h
  exact hlt

/-- No month has more than 31 days. -/
theorem monthLength_le (year : Int) (month : Nat) : monthLength year month ≤ 31 := by
  have hall : ∀ leap, ∀ length ∈ monthLengths leap, length ≤ 31 := by decide
  rw [monthLength, List.getD_eq_getElem?_getD]
  cases h : (monthLengths (isLeap year))[month - 1]? with
  | none => exact Nat.zero_le 31
  | some length => exact hall _ length (List.mem_of_getElem? h)

/-- No month has less than 28 days. -/
theorem le_monthLength {year : Int} {month : Nat} (hmonth : 1 ≤ month ∧ month ≤ 12) :
    28 ≤ monthLength year month := by
  have hall : ∀ leap, ∀ length ∈ monthLengths leap, 28 ≤ length := by decide
  have hlt : month - 1 < (monthLengths (isLeap year)).length := by
    rw [length_monthLengths]
    omega
  rw [monthLength, List.getD_eq_getElem?_getD, List.getElem?_eq_getElem hlt]
  exact hall _ _ (List.getElem_mem hlt)

theorem monthLength_pos {year : Int} {month : Nat} (hmonth : 1 ≤ month ∧ month ≤ 12) :
    1 ≤ monthLength year month :=
  Nat.le_trans (by decide) (le_monthLength hmonth)

/-! ## Years -/

/-- A day number lies in one year only. -/
theorem yearOf_eq {year n : Int} (hstart : yearStart year ≤ n) (hstop : n < yearStart (year + 1)) :
    yearOf n = year := by
  obtain ⟨hstart', hstop'⟩ := yearStart_yearOf_le n
  -- An earlier year would be over before the day, and a later one would not have started.
  rcases Int.lt_trichotomy (yearOf n) year with hlt | heq | hgt
  · have := yearStart_mono (show yearOf n + 1 ≤ year from hlt)
    omega
  · exact heq
  · have := yearStart_mono (show year + 1 ≤ yearOf n from hgt)
    omega

/-! ## Fields -/

/-- A month of the year and a day of it. -/
structure IsValid (year : Int) (month day : Nat) : Prop where
  month_pos : 1 ≤ month
  day_pos : 1 ≤ day
  day_le : day ≤ monthLength year month

instance (year : Int) (month day : Nat) : Decidable (IsValid year month day) :=
  decidable_of_iff (1 ≤ month ∧ 1 ≤ day ∧ day ≤ monthLength year month)
    ⟨fun ⟨h₁, h₂, h₃⟩ => ⟨h₁, h₂, h₃⟩, fun ⟨h₁, h₂, h₃⟩ => ⟨h₁, h₂, h₃⟩⟩

namespace IsValid

variable {year : Int} {month day : Nat} (h : IsValid year month day)
include h

theorem lt_getD : day - 1 < (monthLengths (isLeap year)).getD (month - 1) 0 := by
  have hle : day ≤ (monthLengths (isLeap year)).getD (month - 1) 0 := h.day_le
  have := h.day_pos
  omega

theorem month_le : month ≤ 12 := by
  have := lt_twelve_of_lt h.lt_getD
  omega

/-- The days of the year before the date come to the month and the day. -/
theorem splitMonths_eq :
    splitMonths (monthLengths (isLeap year)) (daysBefore year month + (day - 1)) =
      (month - 1, day - 1) :=
  splitMonths_total h.lt_getD

theorem dayNumber_eq : (ofFields year month day).dayNumber =
    yearStart year + (daysBefore year month + (day - 1) : Nat) := by
  have := h.day_pos
  rw [ofFields]
  dsimp only
  omega

/-- The date lies in its year. -/
theorem lt_total : daysBefore year month + (day - 1) < total (monthLengths (isLeap year)) := by
  -- A month and those before it are a part of the year, by induction on the months.
  have hsum : ∀ (lengths : List Nat) (months : Nat),
      total (lengths.take months) + lengths.getD months 0 ≤ total lengths := by
    intro lengths
    induction lengths with
    | nil => exact fun months => by rw [List.take_nil, List.getD_nil]; exact Nat.le_refl 0
    | cons length rest ih =>
      intro months
      cases months with
      | zero =>
        show total [] + length ≤ length + total rest
        exact Nat.le_trans (Nat.le_of_eq (Nat.zero_add _)) (Nat.le_add_right _ _)
      | succ months =>
        have := ih months
        show length + total (rest.take months) + rest.getD months 0 ≤ length + total rest
        omega
  have hle := hsum (monthLengths (isLeap year)) (month - 1)
  have hlt := h.lt_getD
  rw [daysBefore]
  omega

/-- **The year of the date** is the one that it is found from. -/
theorem year_eq : (ofFields year month day).year = year := by
  have hsucc := yearStart_succ year
  have hlt := h.lt_total
  rw [Date.year, h.dayNumber_eq]
  exact yearOf_eq (by omega) (by omega)

theorem dayOfYear_eq :
    (ofFields year month day).dayOfYear = daysBefore year month + (day - 1) := by
  rw [dayOfYear, h.year_eq, h.dayNumber_eq]
  omega

/-- **The month of the date** is the one that it is found from. -/
theorem month_eq : (ofFields year month day).month = month := by
  rw [Date.month, h.year_eq, h.dayOfYear_eq, h.splitMonths_eq]
  exact Nat.sub_add_cancel h.month_pos

/-- **The day of the month** is the one that the date is found from. -/
theorem day_eq : (ofFields year month day).day = day := by
  rw [Date.day, h.year_eq, h.dayOfYear_eq, h.splitMonths_eq]
  exact Nat.sub_add_cancel h.day_pos

end IsValid

variable {d : Date}

theorem dayOfYear_spec (d : Date) : yearStart d.year + d.dayOfYear = d.dayNumber ∧
    d.dayOfYear < total (monthLengths (isLeap d.year)) := by
  obtain ⟨hstart, hstop⟩ := yearStart_yearOf_le d.dayNumber
  rw [yearStart_succ] at hstop
  rw [dayOfYear, Date.year]
  omega

/-- The fields of a date are valid. -/
theorem isValid_fields (d : Date) : IsValid d.year d.month d.day where
  month_pos := Nat.succ_pos _
  day_pos := Nat.succ_pos _
  day_le := (splitMonths_spec d.dayOfYear_spec.2).1

/-- **A date is found from its fields.** -/
theorem ofFields_fields (d : Date) : ofFields d.year d.month d.day = d := by
  obtain ⟨hnumber, hlt⟩ := d.dayOfYear_spec
  have hsum : daysBefore d.year d.month + (d.day - 1) = d.dayOfYear := (splitMonths_spec hlt).2
  have hday := d.isValid_fields.dayNumber_eq
  rw [hsum, hnumber] at hday
  exact congrArg mk hday

/-! ## Rolling over -/

/-- The dates of the years from the first supported one to the last are supported. -/
theorem supported_of_year (hfirst : firstYear ≤ d.year) (hlast : d.year ≤ lastYear) :
    d.Supported :=
  dayNumber_of_year hfirst hlast

theorem firstYear_le_year (h : d.Supported) : firstYear ≤ d.year ∧ d.year ≤ lastYear := by
  obtain ⟨hstart, hstop⟩ := yearStart_yearOf_le d.dayNumber
  obtain ⟨hfirst, hlast⟩ := h
  constructor
  · refine Int.not_lt.mp fun hlt => ?_
    have := yearStart_mono (show d.year + 1 ≤ firstYear from hlt)
    rw [Date.year] at this
    omega
  · refine Int.not_lt.mp fun hlt => ?_
    have := yearStart_mono (show lastYear + 1 ≤ d.year from hlt)
    rw [Date.year] at this
    omega

/-- The days about a date are supported if its year is neither the first supported one nor the
last. -/
theorem supported_addDays {n : Int} (hfirst : firstYear < d.year) (hlast : d.year < lastYear)
    (hn : -1 ≤ n ∧ n ≤ 1) : (d.addDays n).Supported := by
  have hle : firstYear + 1 ≤ d.year := hfirst
  obtain ⟨hstart, hstop⟩ := dayNumber_of_year hle (Int.le_sub_one_of_lt hlast)
  have hfirst : yearStart (firstYear + 1) = -96464927 := by decide
  have hlast : yearStart (lastYear - 1 + 1) = 95025872 := by decide
  rw [supported_iff, dayNumber_addDays]
  omega

theorem ofFields_addDays (year : Int) (month : Nat) (day n : Int) :
    (ofFields year month day).addDays n = ofFields year month (day + n) := by
  rw [addDays, ofFields, ofFields]
  dsimp only
  congr 1
  omega

theorem ofFields_first (year : Int) (month : Nat) (day : Int) :
    (ofFields year month 1).addDays (day - 1) = ofFields year month day := by
  have hday : (1 : Int) + (day - 1) = day := by omega
  rw [ofFields_addDays, hday]

/-- **A date that is counted on from the first of a month** is found just if both are supported. -/
theorem rolled?_eq_some_iff {year day : Int} {month : Nat} (hmonth : 1 ≤ month ∧ month ≤ 12) :
    rolled? year month day = some d ↔
      ofFields year month day = d ∧ (ofFields year month 1).Supported ∧ d.Supported := by
  -- Every month has a first day, so that only the range can refuse it.
  have hstart : ofFields? year month 1 = (ofFields year month 1).supported? := by
    rw [ofFields?, if_pos ⟨hmonth.1, hmonth.2, Nat.le_refl 1, monthLength_pos hmonth⟩]
    rfl
  rw [rolled?, hstart, Option.bind_eq_some_iff]
  constructor
  · rintro ⟨first, hstart, hrolled⟩
    obtain ⟨rfl, hfirst⟩ := supported?_eq_some_iff.mp hstart
    rw [ofFields_first] at hrolled
    obtain ⟨rfl, hd⟩ := supported?_eq_some_iff.mp hrolled
    exact ⟨rfl, hfirst, hd⟩
  · rintro ⟨rfl, hfirst, hd⟩
    refine ⟨_, supported?_eq_some_iff.mpr ⟨rfl, hfirst⟩, ?_⟩
    rw [ofFields_first]
    exact supported?_eq_some_iff.mpr ⟨rfl, hd⟩

/-- A date that is counted on from a supported first of a month is found just if it is supported. -/
theorem rolled?_of_first {year day : Int} {month : Nat} (hmonth : 1 ≤ month ∧ month ≤ 12)
    (hfirst : (ofFields year month 1).Supported) :
    rolled? year month day = (ofFields year month day).supported? := by
  refine Option.ext fun d => ?_
  rw [rolled?_eq_some_iff hmonth, supported?_eq_some_iff]
  constructor
  · rintro ⟨rfl, -, hd⟩
    exact ⟨rfl, hd⟩
  · rintro ⟨rfl, hd⟩
    exact ⟨rfl, hfirst, hd⟩

/-- **A date of a month is found just if it is supported**, for the first of a month of the supported
years always is. -/
theorem rolled?_eq {year day : Int} {month : Nat} (hmonth : 1 ≤ month ∧ month ≤ 12)
    (hfirst : firstYear ≤ year) (hlast : year ≤ lastYear) :
    rolled? year month day = (ofFields year month day).supported? := by
  have hyear : (ofFields year month 1).year = year :=
    IsValid.year_eq ⟨hmonth.1, Nat.le_refl 1, monthLength_pos hmonth⟩
  have hsupported : (ofFields year month 1).Supported :=
    supported_of_year (by rwa [hyear]) (by rwa [hyear])
  exact rolled?_of_first hmonth hsupported

/-- **A valid day needs no rolling over.** -/
theorem IsValid.rolled?_eq {year : Int} {month day : Nat} (h : IsValid year month day)
    (hfirst : firstYear ≤ year) (hlast : year ≤ lastYear) :
    rolled? year month day = some (ofFields year month day) := by
  have hsupported : (ofFields year month day).Supported :=
    supported_of_year (by rwa [h.year_eq]) (by rwa [h.year_eq])
  rw [Date.rolled?_eq ⟨h.month_pos, h.month_le⟩ hfirst hlast]
  exact supported?_eq_some_iff.mpr ⟨rfl, hsupported⟩

/-- The fields of a supported date lead back to it. -/
theorem rolled?_fields (h : d.Supported) : rolled? d.year d.month d.day = some d := by
  obtain ⟨hfirst, hlast⟩ := firstYear_le_year h
  rw [d.isValid_fields.rolled?_eq hfirst hlast, ofFields_fields]

end Date

/-! ## Full minutes -/

namespace Moment

variable {date : Date} {hour minute : Nat} {offset : Int} {year day : Int} {month : Nat}

/-- The moment at which a clock of an offset shows a full minute of a date. -/
def onMinute (date : Date) (hour minute : Nat) (offset : Int) : Moment :=
  .ofLocal (.ofFields date hour minute 0 0) offset

theorem startOfDay_eq_onMinute (m : Moment) :
    m.startOfDay = onMinute m.localTime.date 0 0 m.offset := by
  rw [startOfDay_eq, onMinute]
  exact congrArg (ofLocal · m.offset) LocalTime.ofFields_zero.symm

section Shown

variable (hhour : hour < 24) (hminute : minute < 60)
include hhour hminute

theorem localTime_onMinute (date : Date) (offset : Int) :
    (onMinute date hour minute offset).localTime.date = date ∧
    (onMinute date hour minute offset).localTime.hour = hour ∧
    (onMinute date hour minute offset).localTime.minute = minute ∧
    (onMinute date hour minute offset).localTime.second = 0 ∧
    (onMinute date hour minute offset).localTime.nanos = 0 := by
  have hsecond : 0 < 60 := by decide
  have hnanos : 0 < Duration.perSecond := by decide
  rw [onMinute, localTime_ofLocal]
  exact ⟨LocalTime.date_ofFields hhour hminute hsecond hnanos,
    LocalTime.hour_ofFields hhour hminute hsecond hnanos,
    LocalTime.minute_ofFields hhour hminute hsecond hnanos, LocalTime.onMinute_ofFields⟩

/-- There is a moment of a full minute at any offset of less than a day, if the year of its date is
neither the first supported one nor the last. -/
theorem ofCarried?_eq_onMinute (hdate : Date.rolled? year month day = some date)
    (hoffset : -86400 < offset ∧ offset < 86400) (hfirst : Date.firstYear < date.year)
    (hlast : date.year < Date.lastYear) :
    ofCarried? year month day hour minute 0 0 offset =
      some (onMinute date hour minute offset) :=
  ofCarried?_eq_some hdate hhour hminute hoffset (Date.supported_addDays hfirst hlast (by decide))
    (Date.supported_addDays hfirst hlast (by decide))

end Shown

end Moment

end Timephrase
