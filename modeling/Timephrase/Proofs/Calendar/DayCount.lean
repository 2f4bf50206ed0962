import Timephrase.Proofs.Calendar.Rollover

/-!
# Days counted on from the first of a month

A date is counted on from the first of a month whatever the month's length.  Its own fields lead back
to it, a day more is a day later, and the days past the end of a month are those of the month after.
There is no date just if there is no such month, or if its first or the date itself is not supported.

## Main results

* `Date.HasFields.eq_ofFields`: a date is known by its fields
* `Date.rolled?_add`: more days, or fewer
* `Date.eq_of_rolled?_monthAfter`: the days past the end of a month
* `Date.rolled?_eq_none_iff`: the days that there are not
* `Date.day_count_follows_calendar`: all of this together
-/

namespace Timephrase.Date

variable {year day : Int} {month : Nat} {d d' : Date}

/-! ## Fields -/

/-- **A date is known by its fields.** -/
theorem HasFields.eq_ofFields (h : d.HasFields year month day) : d = ofFields year month day := by
  obtain ⟨rfl, rfl, rfl⟩ := h
  exact d.ofFields_fields.symm

/-- Only the first of one of the twelve months is counted on from. -/
theorem month_of_rolled? (h : rolled? year month day = some d) : 1 ≤ month ∧ month ≤ 12 := by
  obtain ⟨first, hfirst, -⟩ := Option.bind_eq_some_iff.mp h
  unfold ofFields? at hfirst
  split at hfirst
  · next hvalid => exact ⟨hvalid.1, hvalid.2.1⟩
  · cases hfirst

/-! ## Counting -/

/-- **A number of days more**, or fewer if it is negative, comes to the date by as many days later,
if that is supported. -/
theorem rolled?_add (h : rolled? year month day = some d) (n : Int) :
    rolled? year month (day + n) = (d.addDays n).supported? := by
  have hmonth := month_of_rolled? h
  obtain ⟨rfl, hfirst, -⟩ := (rolled?_eq_some_iff hmonth).mp h
  -- The first of the month is the same one, and is known to be supported.
  rw [ofFields_addDays]
  exact rolled?_of_first hmonth hfirst

/-- **The days past the end of a month** and the days of the month after, if both are found. -/
theorem eq_of_rolled?_monthAfter (hmonth : 1 ≤ month ∧ month ≤ 12)
    (h : rolled? year month (day + monthLength year month) = some d)
    (h' : rolled? (monthAfter year month).1 (monthAfter year month).2 day = some d') : d = d' := by
  obtain ⟨rfl, -, -⟩ := (rolled?_eq_some_iff hmonth).mp h
  obtain ⟨rfl, -, -⟩ := (rolled?_eq_some_iff (month_of_monthAfter hmonth)).mp h'
  rw [Int.add_comm]
  exact ofFields_add_monthLength hmonth day

/-- **No date is found** just if there is no such month, or its first day is not supported, or the
date is not. -/
theorem rolled?_eq_none_iff : rolled? year month day = none ↔ ¬(1 ≤ month ∧ month ≤ 12) ∨
    ∃ first : Date, first.HasFields year month 1 ∧
      (¬first.Supported ∨ ¬(first.addDays (day - 1)).Supported) := by
  rw [Option.eq_none_iff_forall_ne_some]
  constructor
  · intro hnone
    by_cases hmonth : 1 ≤ month ∧ month ≤ 12
    · refine Or.inr ⟨ofFields year month 1, hasFields_first hmonth, ?_⟩
      rw [ofFields_first]
      by_cases hfirst : (ofFields year month 1).Supported
      · right
        intro hd
        exact hnone _ ((rolled?_eq_some_iff hmonth).mpr ⟨rfl, hfirst, hd⟩)
      · left
        exact hfirst
    · exact Or.inl hmonth
  · intro hnot d h
    have hmonth := month_of_rolled? h
    obtain ⟨rfl, hfirst, hd⟩ := (rolled?_eq_some_iff hmonth).mp h
    rcases hnot with hnot | ⟨first, hfields, hnot⟩
    · exact hnot hmonth
    · -- There is only one date with these fields.
      obtain rfl := hfields.eq_ofFields
      rw [ofFields_first] at hnot
      rcases hnot with hnot | hnot
      · exact hnot hfirst
      · exact hnot hd

/-- **Days that are counted on from the first of a month follow the calendar.**  The fields of every
supported date lead back to it.  As many days past the end of a month as are counted in the month
after it come to the same date, if both are found.  Where a date is found, a number of days more
comes to the date that is as many days later, if that is supported, and to none otherwise.  And no
date is found just if there is no such month, or if its first or the date itself is not supported. -/
theorem day_count_follows_calendar (year : Int) (month : Nat) (day : Int) :
    (∀ d : Date, d.Supported → rolled? d.year d.month d.day = some d) ∧
    (1 ≤ month ∧ month ≤ 12 → ∀ d d',
      rolled? year month (day + monthLength year month) = some d →
      rolled? (monthAfter year month).1 (monthAfter year month).2 day = some d' → d = d') ∧
    (∀ d, rolled? year month day = some d → ∀ n,
      rolled? year month (day + n) = (d.addDays n).supported?) ∧
    (rolled? year month day = none ↔ ¬(1 ≤ month ∧ month ≤ 12) ∨
      ∃ first : Date, first.HasFields year month 1 ∧
        (¬first.Supported ∨ ¬(first.addDays (day - 1)).Supported)) := by
  refine ⟨?_, ?_, ?_, rolled?_eq_none_iff⟩
  · intro d hd
    exact rolled?_fields hd
  · intro hmonth d d' h h'
    exact eq_of_rolled?_monthAfter hmonth h h'
  · intro d h n
    exact rolled?_add h n

/-- The last supported day is day 31 of its month, which has no day 32. -/
theorem day_count_ends_with_last_day :
    (⟨95026236⟩ : Date).Supported ∧ rolled? 262142 12 31 = some ⟨95026236⟩ ∧
      rolled? 262142 12 (31 + 1) = none ∧
      rolled? 262142 12 (31 + -31) = rolled? 262142 11 30 := by
  have hlast : (⟨95026236⟩ : Date).Supported := by decide
  have hfields : (⟨95026236⟩ : Date).HasFields 262142 12 31 := by decide +kernel
  obtain ⟨hback, -, hmore, -⟩ := day_count_follows_calendar 262142 12 31
  have hfound : rolled? 262142 12 31 = some ⟨95026236⟩ := by
    have hback := hback _ hlast
    rwa [hfields.1, hfields.2.1, hfields.2.2] at hback
  refine ⟨hlast, hfound, ?_, ?_⟩
  · rw [hmore _ hfound]
    decide +kernel
  · rw [hmore _ hfound]
    decide +kernel

/-- Day zero of March is the last of February. -/
example : rolled? 2024 3 0 = some (ofFields 2024 2 29) := by decide +kernel

end Timephrase.Date
