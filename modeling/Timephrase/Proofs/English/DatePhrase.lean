import Timephrase.Proofs.Calendar.Rollover
import Timephrase.Proofs.English.DateFields

/-!
# What a date means

A date that is written lays a day on the time of day that the clock shows.  The day is counted on
from the first of the month, so that it need not be one of the month's own.  What is not written is
taken from the date that the clock shows.

## Main definitions

* `English.WritesDate`: the month, the days and the year that captures of a date write

## Main results

* `English.calendarDate_of_writesDate`: what a date comes to
* `English.fields_of_calendarDate`: what a date keeps and what it changes
* `English.date_phrase_lays_day`: when a date has a meaning, and which
-/

namespace Timephrase.English

variable {c : Captures} {t : Moment} {month : Nat} {before? after? year? : Option Int}

theorem month_of_month? {name : String} (h : month? name = some month) :
    1 ≤ month ∧ month ≤ 12 := by
  have hall : ∀ entry ∈ months, 1 ≤ entry.2 ∧ entry.2 ≤ 12 := by decide
  obtain ⟨before, after, hmonths, -⟩ := List.lookup_eq_some_iff.mp h
  exact hall _ (hmonths ▸ List.mem_append_right _ List.mem_cons_self)

/-- Captures of a date write the name of a month, and maybe a day before it, a day after it and a
year. -/
structure WritesDate (c : Captures) (month : Nat) (before? after? year? : Option Int) : Prop where
  month : month? (c.text "month") = some month
  before : c.read? IntegerRange.signed64.read "day" = .ok before?
  after : c.read? IntegerRange.signed64.read "day_after" = .ok after?
  year : c.read? IntegerRange.signed32.read "year" = .ok year?

namespace WritesDate

variable (h : WritesDate c month before? after? year?)
include h

theorem writtenMonth_eq : writtenMonth c = .ok month := by
  rw [writtenMonth, h.month]

/-- The day after the month counts before the one in front of it, and either before the day that the
clock shows. -/
theorem writtenDay_eq (t : Moment) :
    writtenDay t c = .ok ((after?.or before?).getD t.localTime.date.day) := by
  rw [writtenDay, h.after, h.before]
  cases after? <;> rfl

theorem month_range : 1 ≤ month ∧ month ≤ 12 := month_of_month? h.month

end WritesDate

/-- Whatever is understood as a date writes one. -/
theorem DateUnderstood.exists_writesDate {text : String} (h : DateUnderstood text c) :
    ∃ month before? after? year?, WritesDate c month before? after? year? ∧
      ∀ n ∈ year?, 0 ≤ n ∧ n ≤ 9999 := by
  obtain ⟨u, w, v, -, -, ⟨alternative, halternative, hreads⟩, hall⟩ := h.month
  obtain ⟨hmonth, -, -⟩ := hall alternative halternative hreads
  obtain ⟨before?, hbefore⟩ := h.day.exists_read?
  obtain ⟨after?, hafter⟩ := h.dayAfter.exists_read?
  rcases h.year with ⟨-, hyear⟩ | ⟨n, hyear, hn⟩
  · exact ⟨_, before?, after?, none, ⟨hmonth, hbefore, hafter, hyear⟩, nofun⟩
  · refine ⟨_, before?, after?, some n, ⟨hmonth, hbefore, hafter, hyear⟩, ?_⟩
    rintro _ ⟨⟩
    omega

section Meaning

variable (hleap : t.localTime.isLeap = false) (hshown : t.localTime.Supported)
  (h : WritesDate c month before? after? year?) (hyear : ∀ n ∈ year?, 0 ≤ n ∧ n ≤ 9999)
include hleap hshown h hyear

/-- **A date comes to the time of day on the day that is counted**, if that is in range. -/
theorem calendarDate_of_writesDate : calendarDate t c =
    inRange c (Moment.shownAt? (t.localTime.withDate
      (.ofFields (year?.getD t.localTime.date.year) month
        ((after?.or before?).getD t.localTime.date.day))) t.offset) := by
  -- The first of the month is supported: its year is written with four digits, or the clock's own.
  have hrange : Date.firstYear ≤ year?.getD t.localTime.date.year ∧
      year?.getD t.localTime.date.year ≤ Date.lastYear := by
    cases year? with
    | none => exact Date.firstYear_le_year hshown
    | some n =>
      have hn := hyear n rfl
      simp only [Option.getD_some, Date.firstYear, Date.lastYear]
      omega
  rw [calendarDate_eq, h.writtenMonth_eq, h.writtenDay_eq, h.year]
  exact congrArg (inRange c)
    (Moment.ofCarried?_clock hleap h.month_range hrange.1 hrange.2)

variable {year day : Int} {t' : Moment} (hy : year = year?.getD t.localTime.date.year)
  (hd : day = (after?.or before?).getD t.localTime.date.day)
include hy hd

theorem calendarDate_eq_ok_iff : calendarDate t c = .ok t' ↔
    t' = .ofLocal (t.localTime.withDate (.ofFields year month day)) t.offset ∧
      (Date.ofFields year month day).Supported ∧ t'.Supported := by
  rw [calendarDate_of_writesDate hleap hshown h hyear, ← hy, ← hd, inRange_eq_ok_iff,
    Moment.shownAt?_eq_some_iff, LocalTime.supported_withDate]

theorem calendarDate_eq_error_iff {failure : Failure} : calendarDate t c = .error failure ↔
    failure = .outOfRange c.rule ∧
      ¬ ((Date.ofFields year month day).Supported ∧
        (Moment.ofLocal (t.localTime.withDate (.ofFields year month day)) t.offset).Supported) := by
  rw [calendarDate_of_writesDate hleap hshown h hyear, ← hy, ← hd, inRange_eq_error_iff,
    Moment.shownAt?_eq_none_iff, LocalTime.supported_withDate]

/-- **A date keeps the time of day** and the offset, and lays them on the day that is counted. -/
theorem fields_of_calendarDate (ht' : calendarDate t c = .ok t') : t'.offset = t.offset ∧
    t'.localTime.date = .ofFields year month day ∧
      t'.localTime.secondOfDay = t.localTime.secondOfDay ∧
      t'.localTime.nanos = t.localTime.nanos := by
  obtain ⟨rfl, -, -⟩ := (calendarDate_eq_ok_iff hleap hshown h hyear hy hd).mp ht'
  rw [Moment.localTime_ofLocal]
  exact ⟨rfl, LocalTime.date_withDate _ _, LocalTime.secondOfDay_withDate _ _, rfl⟩

end Meaning

/-- **What a date means.**  Whatever the pattern for dates finds writes a month, maybe days before
and after it and maybe a year of four digits.  Let captures write these, and let the clock show a
supported local time outside leap seconds.

The date has a meaning just if the day `day - 1` days after the first of the month is supported and
so is the moment at which the clock, of the same offset, shows its time of day on that day; then it
means this moment.  Otherwise it is out of range, which is the only way in which it fails.  The year
is the one written or else the clock's, the day is the one after the month, or else the one before
it, or else the clock's.

A day from one to the length of the month is a day of the month.  A later one is a day of the month
after, less the length.  Day zero is the last one of the month before. -/
theorem date_phrase_lays_day : ∃ rule f, date = .ok rule ∧ rule.meaning = .time f ∧
    (∀ text, ∀ m ∈ rule.pattern.findAll text, ∃ month before? after? year?,
      WritesDate (.ofMatch rule.name rule.pattern text m) month before? after? year? ∧
        ∀ n ∈ year?, 0 ≤ n ∧ n ≤ 9999) ∧
    ∀ context t c month before? after? year? year day,
      t.localTime.isLeap = false → t.localTime.Supported →
      WritesDate c month before? after? year? → (∀ n ∈ year?, 0 ≤ n ∧ n ≤ 9999) →
      year = year?.getD t.localTime.date.year →
      day = (after?.or before?).getD t.localTime.date.day →
      (∀ t', f context t c = .ok t' ↔
        t' = .ofLocal (t.localTime.withDate (.ofFields year month day)) t.offset ∧
          (Date.ofFields year month day).Supported ∧ t'.Supported) ∧
      (∀ failure, f context t c = .error failure ↔ failure = .outOfRange c.rule ∧
        ¬ ((Date.ofFields year month day).Supported ∧
          (Moment.ofLocal (t.localTime.withDate (.ofFields year month day)) t.offset).Supported)) ∧
      (∀ t', f context t c = .ok t' → t'.offset = t.offset ∧
        t'.localTime.date = .ofFields year month day ∧
        t'.localTime.secondOfDay = t.localTime.secondOfDay ∧
        t'.localTime.nanos = t.localTime.nanos) ∧
      (Date.ofFields year month 1).HasFields year month 1 ∧
      Date.ofFields year month day = (Date.ofFields year month 1).addDays (day - 1) ∧
      (1 ≤ day → day ≤ Date.monthLength year month →
        (Date.ofFields year month day).HasFields year month day) ∧
      (Date.ofFields year month day = .ofFields (Date.monthAfter year month).1
        (Date.monthAfter year month).2 (day - Date.monthLength year month)) ∧
      (day = 0 → (Date.ofFields year month day).HasFields (Date.monthBefore year month).1
        (Date.monthBefore year month).2 (Date.monthLength (Date.monthBefore year month).1
          (Date.monthBefore year month).2)) := by
  refine ⟨dateRule, _, date_eq, rfl, fun text m hm =>
    (dateUnderstood_of_mem_findAll hm).exists_writesDate, ?_⟩
  intro context t c month before? after? year? year day hleap hshown hwrites hyear hy hd
  have hmonth := hwrites.month_range
  refine ⟨fun t' => ?_, fun failure => ?_, fun t' ht' => ?_, Date.hasFields_first hmonth, ?_,
    Date.hasFields_ofFields hmonth.1, ?_, ?_⟩
  · exact calendarDate_eq_ok_iff hleap hshown hwrites hyear hy hd
  · exact calendarDate_eq_error_iff hleap hshown hwrites hyear hy hd
  · exact fields_of_calendarDate hleap hshown hwrites hyear hy hd ht'
  · have hday : day = 1 + (day - 1) := by omega
    rw [Date.ofFields_addDays, ← hday]
  · rw [← Date.ofFields_add_monthLength hmonth]
    congr 1
    omega
  · rintro rfl
    exact Date.hasFields_day_zero hmonth

/-- On 29 February 2000 the day after the month counts in "5 feb 30", and there is no such day, so
that it is 1 March.  The 99th of December is out of range on the last day of the calendar. -/
theorem date_phrase_after_leap_day : ∃ rule f m m', date = .ok rule ∧ rule.meaning = .time f ∧
    m ∈ rule.pattern.findAll "5 feb 30" ∧ m' ∈ rule.pattern.findAll "dec 99" ∧
    WritesDate (.ofMatch rule.name rule.pattern "5 feb 30" m) 2 (some 5) (some 30) none ∧
    WritesDate (.ofMatch rule.name rule.pattern "dec 99" m') 12 none (some 99) none ∧
    f halfPastFour ⟨⟨951824096, 789000000⟩, 3600⟩ (.ofMatch rule.name rule.pattern "5 feb 30" m) =
      .ok ⟨⟨951910496, 789000000⟩, 3600⟩ ∧
    (Date.ofFields 2000 2 30).HasFields 2000 3 1 ∧
    f halfPastFour ⟨⟨8210266876799, 0⟩, 0⟩ (.ofMatch rule.name rule.pattern "dec 99" m') =
      .error (.outOfRange "date") := by
  obtain ⟨rule, f, hrule, hf, -, hmeaning⟩ := date_phrase_lays_day
  obtain rfl : dateRule = rule := Except.ok.inj (date_eq.symm.trans hrule)
  have hm : ⟨⟨0, 8⟩, [(3, ⟨6, 8⟩), (2, ⟨2, 5⟩), (1, ⟨0, 1⟩)]⟩ ∈
      dateRule.pattern.findAll "5 feb 30" := by
    decide +kernel
  have hm' : ⟨⟨0, 6⟩, [(3, ⟨4, 6⟩), (2, ⟨0, 3⟩)]⟩ ∈ dateRule.pattern.findAll "dec 99" := by
    decide +kernel
  have hwrites : WritesDate (.ofMatch dateRule.name dateRule.pattern "5 feb 30"
      ⟨⟨0, 8⟩, [(3, ⟨6, 8⟩), (2, ⟨2, 5⟩), (1, ⟨0, 1⟩)]⟩) 2 (some 5) (some 30) none :=
    ⟨by decide +kernel, by decide +kernel, by decide +kernel, by decide +kernel⟩
  have hwrites' : WritesDate (.ofMatch dateRule.name dateRule.pattern "dec 99"
      ⟨⟨0, 6⟩, [(3, ⟨4, 6⟩), (2, ⟨0, 3⟩)]⟩) 12 none (some 99) none :=
    ⟨by decide +kernel, by decide +kernel, by decide +kernel, by decide +kernel⟩
  have hleapDay := hmeaning halfPastFour ⟨⟨951824096, 789000000⟩, 3600⟩ _ _ _ _ _ 2000 30
    (by decide) (by decide) hwrites nofun (by decide) rfl
  have hlastDay := hmeaning halfPastFour ⟨⟨8210266876799, 0⟩, 0⟩ _ _ _ _ _ 262142 99
    (by decide) (by decide) hwrites' nofun (by decide) rfl
  refine ⟨dateRule, f, _, _, hrule, hf, hm, hm', hwrites, hwrites', ?_, by decide, ?_⟩
  · exact (hleapDay.1 _).mpr ⟨by decide, by decide, by decide⟩
  · exact (hlastDay.2.1 _).mpr ⟨rfl, by decide⟩

end Timephrase.English
