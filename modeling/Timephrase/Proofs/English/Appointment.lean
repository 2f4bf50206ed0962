import Timephrase.Proofs.Calendar.Fields
import Timephrase.Proofs.English.Failing
import Timephrase.Proofs.English.Wording
import Timephrase.Proofs.Residual
import Timephrase.Proofs.Text.Numeral

/-!
# Appointments are read back

An appointment is written as a date and a time of day, "on oct 26, 1985 at 9:05".  Read back, it
comes to that date and that time of day, whatever the day of reference is and whatever the clock
shows at the reference.

## Main definitions

* `English.Appointment`: a date and a time of day, and how they are to be written
* `English.Appointment.text`: the written form
* `English.Appointment.IsShownBy`: what a clock shows at an appointment

## Main results

* `English.appointment_read_back`: what the written form of an appointment is read as
-/

namespace Timephrase.English

/-! ## Appointments -/

/-- A date and a time of day, and how they are to be written: the name of the month, and the least
numbers of digits for the day and for the hour. -/
structure Appointment where
  year : Nat
  month : Nat
  day : Nat
  hour : Nat
  minute : Nat
  monthName : String
  dayWidth : Nat
  hourWidth : Nat
  isValid : Date.IsValid year month day
  year_le : year ≤ 9999
  hour_le : hour ≤ 23
  minute_le : minute ≤ 59
  isMonthName : IsMonthName monthName month
  dayWidth_eq : dayWidth = 1 ∨ dayWidth = 2
  hourWidth_eq : hourWidth = 1 ∨ hourWidth = 2

namespace Appointment

variable (a : Appointment)

/-- The written date, as in "on oct 26, 1985". -/
def date : String :=
  "on " ++ a.monthName ++ " " ++ Digits.padded a.dayWidth a.day ++ ", " ++ Digits.padded 4 a.year

/-- The written time of day, as in "at 9:05". -/
def clock : String := "at " ++ Digits.padded a.hourWidth a.hour ++ ":" ++ Digits.padded 2 a.minute

/-- The written appointment, as in "on oct 26, 1985 at 9:05". -/
def text : String := a.date ++ " " ++ a.clock

/-- A clock shows the date and the time of day, on the full minute. -/
structure IsShownBy (t : LocalTime) : Prop where
  year_eq : t.date.year = a.year
  month_eq : t.date.month = a.month
  day_eq : t.date.day = a.day
  hour_eq : t.hour = a.hour
  minute_eq : t.minute = a.minute
  second_eq : t.second = 0
  nanos_eq : t.nanos = 0

/-! ## The wording -/

/-- The written appointment in its parts. -/
def wording : Wording where
  month := a.monthName.toList
  day := (Digits.padded a.dayWidth a.day).toList
  year := (Digits.padded 4 a.year).toList
  hour := (Digits.padded a.hourWidth a.hour).toList
  minute := (Digits.padded 2 a.minute).toList

theorem wording_month : a.wording.month = a.monthName.toList := by
  simp only [wording]

theorem wording_day : a.wording.day = (Digits.padded a.dayWidth a.day).toList := by
  simp only [wording]

theorem wording_year : a.wording.year = (Digits.padded 4 a.year).toList := by
  simp only [wording]

theorem wording_hour : a.wording.hour = (Digits.padded a.hourWidth a.hour).toList := by
  simp only [wording]

theorem wording_minute : a.wording.minute = (Digits.padded 2 a.minute).toList := by
  simp only [wording]

theorem toList_date : a.date.toList = a.wording.date := by
  simp [date, wording, Wording.date, Wording.beforeYear, Wording.beforeDay, Wording.beforeMonth]

theorem toList_clock : a.clock.toList = a.wording.clock := by
  simp [clock, wording, Wording.clock]

theorem toList_beforeClock : (a.date ++ " ").toList = a.wording.beforeClock := by
  rw [String.toList_append, toList_date]
  rfl

theorem toList_text : a.text.toList = a.wording.chars := by
  rw [text, String.toList_append, toList_beforeClock, toList_clock]
  rfl

/-- A numeral in outline is one of two if it has one or two digits. -/
theorem outline_padded {width n : Nat} (hwidth : width = 1 ∨ width = 2) (hn : n < 100) :
    (Digits.padded width n).toList.map Ascii.outline ∈ [['0'], ['0', '0']] := by
  rw [Ascii.map_outline_of_isDigit Digits.isDigit_of_mem_padded]
  rcases Digits.length_padded_of_lt hwidth hn with h | h
  · rw [h]
    exact List.mem_cons_self
  · rw [h]
    exact List.mem_cons_of_mem _ List.mem_cons_self

theorem day_le : a.day ≤ 31 := Nat.le_trans a.isValid.day_le (Date.monthLength_le _ _)

theorem outline_wording_mem : a.wording.outline ∈ Wording.outlines := by
  have hmonth : a.monthName.toList.map Ascii.outline = a.monthName.toList.map Char.toLower :=
    List.map_congr_left fun c hc =>
      Ascii.outline_of_not_isDigit (isDigit_of_isMonthName a.isMonthName c hc)
  have hyear : (Digits.padded 4 a.year).toList.map Ascii.outline = ['0', '0', '0', '0'] := by
    have hlt : a.year < 10 ^ 4 := Nat.lt_of_le_of_lt a.year_le (by decide)
    rw [Ascii.map_outline_of_isDigit Digits.isDigit_of_mem_padded,
      Digits.length_padded (by decide) hlt]
    rfl
  have hminute : (Digits.padded 2 a.minute).toList.map Ascii.outline = ['0', '0'] := by
    have hlt : a.minute < 10 ^ 2 := Nat.lt_of_le_of_lt a.minute_le (by decide)
    rw [Ascii.map_outline_of_isDigit Digits.isDigit_of_mem_padded,
      Digits.length_padded (by decide) hlt]
    rfl
  rw [Wording.mem_outlines_iff]
  simp only [Wording.outline, wording, hmonth, hyear, hminute]
  exact ⟨⟨a.month, a.isMonthName⟩,
    outline_padded a.dayWidth_eq (Nat.lt_of_le_of_lt a.day_le (by decide)), trivial,
    outline_padded a.hourWidth_eq (Nat.lt_of_le_of_lt a.hour_le (by decide)), trivial⟩

theorem isUpper_of_mem_clock : ∀ c ∈ a.wording.clock, c.isUpper = false := by
  have hdigit : ∀ width n, ∀ c ∈ (Digits.padded width n).toList, c.isUpper = false := by
    intro width n c hc
    have hbounds := Ascii.isDigit_iff.mp (Digits.isDigit_of_mem_padded c hc)
    rw [Bool.eq_false_iff, ne_eq, Ascii.isUpper_iff]
    omega
  intro c hc
  simp only [Wording.clock, wording, List.mem_append, List.mem_cons, List.not_mem_nil,
    or_false] at hc
  rcases hc with (((rfl | rfl | rfl) | hc) | rfl) | hc
  · rfl
  · rfl
  · rfl
  · exact hdigit _ _ c hc
  · rfl
  · exact hdigit _ _ c hc

/-! ## What the rules make of it -/

/-- A numeral that is captured is read as its number. -/
theorem read?_of_padded {rule name text : String} {pattern : Pattern} {m : Pattern.Match}
    {range : IntegerRange} {index width n : Nat} {u v : List Char}
    (hname : pattern.names.lookup name = some index)
    (hgroup : m.group? index = some (.after u (Digits.padded width n).toList))
    (ht : text.toList = u ++ (Digits.padded width n).toList ++ v) (hn : n ≤ 9999)
    (hrange : range.least ≤ 0 ∧ 9999 ≤ range.greatest) :
    (Captures.ofMatch rule pattern text m).read? range.read name = .ok (some (n : Int)) := by
  have hget : (Captures.ofMatch rule pattern text m).get? name = _ :=
    Captures.get?_of_after hname hgroup ht
  rw [String.ofList_toList, Digits.lowercase_padded] at hget
  have hread : range.read (Digits.padded width n) = .ok (n : Int) :=
    IntegerRange.read_padded hrange.1 (by omega)
  refine Captures.read?_of_get?_eq_some hget ?_ hread
  intro hempty
  have htoList := Digits.toList_padded width n
  rw [hempty] at htoList
  exact List.append_ne_nil_of_right_ne_nil _ Nat.toDigits_ne_nil htoList.symm

section Captured

variable {a} {text : String} (ht : text.toList = a.wording.chars)
include ht

/-- What the rule for times of day captures. -/
theorem captured_clock :
    ∃ c, Captures.ofMatch atTimeRule.name atTimeRule.pattern text a.wording.clockMatch = c ∧
      c.require IntegerRange.signed64.read "hour" = .ok (a.hour : Int) ∧
      c.read? IntegerRange.signed64.read "minute" = .ok (some (a.minute : Int)) ∧
      c.get? "meridiem" = none := by
  obtain ⟨-, -, -, ⟨v, hv⟩, ⟨v', hv'⟩⟩ := a.wording.exists_chars_eq
  obtain ⟨hgroup, hgroup', hnone⟩ := a.wording.group?_clockMatch
  have hle := a.hour_le
  have hle' := a.minute_le
  rw [wording_hour] at hv hgroup
  rw [wording_minute] at hv' hgroup'
  have hname : atTimeRule.pattern.names.lookup "meridiem" = some 3 := rfl
  refine ⟨_, rfl, Captures.require_of_read? ?_, ?_, ?_⟩
  · exact read?_of_padded rfl hgroup (ht.trans hv) (by omega) (by decide)
  · exact read?_of_padded rfl hgroup' (ht.trans hv') (by omega) (by decide)
  · rw [Captures.get?_ofMatch hname, hnone]
    rfl

/-- What the rule for dates captures. -/
theorem captured_date :
    ∃ c, Captures.ofMatch dateRule.name dateRule.pattern text a.wording.dateMatch = c ∧
      month? (c.text "month") = some a.month ∧
      c.read? IntegerRange.signed64.read "day_after" = .ok (some (a.day : Int)) ∧
      c.read? IntegerRange.signed32.read "year" = .ok (some (a.year : Int)) := by
  obtain ⟨⟨v, hv⟩, ⟨v', hv'⟩, ⟨v'', hv''⟩, -, -⟩ := a.wording.exists_chars_eq
  obtain ⟨hgroup, hgroup', hgroup''⟩ := a.wording.group?_dateMatch
  have hle := a.day_le
  have hle' := a.year_le
  rw [wording_month] at hv hgroup
  rw [wording_day] at hv' hgroup'
  rw [wording_year] at hv'' hgroup''
  have hname : dateRule.pattern.names.lookup "month" = some 2 := rfl
  refine ⟨_, rfl, ?_, ?_, ?_⟩
  · rw [Captures.text, Captures.get?_of_after hname hgroup (ht.trans hv), String.ofList_toList]
    exact month?_of_isMonthName a.isMonthName
  · exact read?_of_padded rfl hgroup' (ht.trans hv') (by omega) (by decide)
  · exact read?_of_padded rfl hgroup'' (ht.trans hv'') (by omega) (by decide)

end Captured

variable {a} {text : String} (ht : text.toList = a.wording.chars) {date : Date} {hour minute : Nat}
  {offset : Int} (hhour : hour < 24) (hminute : minute < 60)
  (hoffset : -86400 < offset ∧ offset < 86400)
include ht hhour hminute hoffset

/-- **The rule for times of day** sets the hour and the minute, on whatever date it is. -/
theorem timeOfDay_eq (hfirst : Date.firstYear < date.year) (hlast : date.year < Date.lastYear) :
    timeOfDay (.onMinute date hour minute offset)
      (.ofMatch atTimeRule.name atTimeRule.pattern text a.wording.clockMatch) =
        .ok (.onMinute date a.hour a.minute offset) := by
  obtain ⟨c, hc, hread, hread', hhalf⟩ := captured_clock ht
  obtain ⟨hdate, -, -, hsecond, hnanos⟩ :=
    Moment.localTime_onMinute hhour hminute date offset
  have hsupported := Date.supported_of_year (Int.le_of_lt hfirst) (Int.le_of_lt hlast)
  have hcarried := Moment.ofCarried?_eq_onMinute (Nat.lt_succ_of_le a.hour_le)
    (Nat.lt_succ_of_le a.minute_le) (Date.rolled?_fields hsupported) hoffset hfirst hlast
  have hpm : ¬ (none : Option String) = some "pm" := nofun
  rw [hc, timeOfDay, hread, hread']
  simp only [bind, Except.bind, hhalf, if_neg hpm, hdate, hsecond, hnanos, Option.getD_some]
  exact congrArg (inRange c) hcarried

/-- **The rule for dates** sets the date and leaves the hour and the minute. -/
theorem calendarDate_eq_onMinute :
    calendarDate (.onMinute date hour minute offset)
      (.ofMatch dateRule.name dateRule.pattern text a.wording.dateMatch) =
        .ok (.onMinute (.ofFields a.year a.month a.day) hour minute offset) := by
  obtain ⟨c, hc, hmonth, hday, hyear⟩ := captured_date ht
  obtain ⟨-, hhour', hminute', hsecond, hnanos⟩ :=
    Moment.localTime_onMinute hhour hminute date offset
  have hle := a.year_le
  have hyear' : (Date.ofFields a.year a.month a.day).year = a.year := a.isValid.year_eq
  have hfirst : Date.firstYear < a.year := by
    rw [Date.firstYear]
    omega
  have hlast : (a.year : Int) < Date.lastYear := by
    rw [Date.lastYear]
    omega
  have hcarried := Moment.ofCarried?_eq_onMinute hhour hminute
    (a.isValid.rolled?_eq (Int.le_of_lt hfirst) (Int.le_of_lt hlast)) hoffset
    (hyear'.symm ▸ hfirst) (hyear'.symm ▸ hlast)
  rw [hc, calendarDate_eq, writtenMonth, hmonth, writtenDay, hday, hyear]
  simp only [bind, Except.bind, hhour', hminute', hsecond, hnanos, Option.getD_some]
  exact congrArg (inRange c) hcarried

end Appointment

/-! ## What is left -/

/-- Of two pieces of a text and a space between them nothing is left if both are taken out. -/
theorem residual_eq_empty {text : String} {u v : List Char} (ht : text.toList = u ++ [' '] ++ v) :
    Residual.residual text [.after (u ++ [' ']) v, .after [] u] = "" := by
  have hmarks : ∀ s ∈ [Span.after (u ++ [' ']) v, .after [] u], ∃ w, s.Marks text w := by
    intro s hs
    simp only [List.mem_cons, List.not_mem_nil, or_false] at hs
    rcases hs with rfl | rfl
    · exact ⟨v, u ++ [' '], [], by rw [ht, List.append_nil], rfl, rfl⟩
    · exact ⟨u, [], [' '] ++ v, by rw [ht]; simp, rfl, rfl⟩
  have hfirst : Residual.uncovered [.after (u ++ [' ']) v, .after [] u] 0 u = [] :=
    Residual.uncovered_of_covers fun j _ hlt => ⟨.after [] u, by simp, Nat.zero_le j, by
      rwa [Nat.zero_add] at hlt⟩
  have hlast : Residual.uncovered [.after (u ++ [' ']) v, .after [] u]
      (0 + Utf8.size (u ++ [' '])) v = [] :=
    Residual.uncovered_of_covers fun j hle hlt => ⟨.after (u ++ [' ']) v, by simp, by
      rwa [Nat.zero_add] at hle, by
      rwa [Nat.zero_add, ← Utf8.size_append] at hlt⟩
  -- The space itself is kept or not; either way it is trimmed off.
  rw [Residual.residual_eq hmarks, ht, Residual.uncovered_append, Residual.uncovered_append, hfirst,
    hlast, List.nil_append, List.append_nil, Residual.uncovered]
  split
  · rfl
  · rfl

/-! ## The whole text -/

/-- The two steps come to the appointment. -/
theorem foldlM_appointment (a : Appointment) {now : Moment}
    (hfirst : Date.firstYear < now.localTime.date.year)
    (hlast : now.localTime.date.year < Date.lastYear)
    (hoffset : -86400 < now.offset ∧ now.offset < 86400) :
    [(atTimeRule, a.wording.clockMatch), (dateRule, a.wording.dateMatch)].foldlM
        (Step.rewrite (.at now) a.text) ((Context.at now).today, Duration.zero) =
      .ok (.onMinute (.ofFields a.year a.month a.day) a.hour a.minute now.offset, .zero) := by
  have htoday : (Context.at now).today = .onMinute now.localTime.date 0 0 now.offset :=
    now.startOfDay_eq_onMinute
  -- Nothing of the reference but its offset outlives the two steps: the first replaces the hour and
  -- the minute of its midnight, and the second the date.
  have hclock : Step.rewrite (.at now) a.text
      (.onMinute now.localTime.date 0 0 now.offset, Duration.zero)
      (atTimeRule, a.wording.clockMatch) =
        .ok (.onMinute now.localTime.date a.hour a.minute now.offset, .zero) :=
    Step.rewrite_of_time rfl (Appointment.timeOfDay_eq a.toList_text (Nat.zero_lt_succ 23)
      (Nat.zero_lt_succ 59) hoffset hfirst hlast)
  have hdate : Step.rewrite (.at now) a.text
      (.onMinute now.localTime.date a.hour a.minute now.offset, Duration.zero)
      (dateRule, a.wording.dateMatch) =
        .ok (.onMinute (.ofFields a.year a.month a.day) a.hour a.minute now.offset, .zero) :=
    Step.rewrite_of_time rfl (Appointment.calendarDate_eq_onMinute a.toList_text
      (Nat.lt_succ_of_le a.hour_le) (Nat.lt_succ_of_le a.minute_le) hoffset)
  rw [htoday, foldlM_cons_of_ok hclock, foldlM_cons_of_ok hdate]
  rfl

/-- **An appointment is read back.**  Whatever the clock shows at the reference, as long as its year
is neither the first supported one nor the last, the written appointment comes to its date and its
time of day at the offset of the reference.  All of the text is taken out, the time of day first. -/
theorem appointment_read_back (a : Appointment) (mode : MatchMode) (now : Moment)
    (hfirst : Date.firstYear < now.localTime.date.year)
    (hlast : now.localTime.date.year < Date.lastYear)
    (hoffset : -86400 < now.offset ∧ now.offset < 86400) :
    ∃ c e, catalog = .ok c ∧ (⟨c, mode⟩ : Parser).parse (.at now) a.text = .ok e ∧
      e.time.offset = now.offset ∧ a.IsShownBy e.time.localTime ∧ e.duration = .zero ∧
      e.text = "" ∧
      e.spans = [.after (a.date ++ " ").toList a.clock.toList, .after [] a.date.toList] := by
  have hsteps := Wording.steps_eq a.outline_wording_mem a.toList_text a.isUpper_of_mem_clock mode
  have hparse := Parser.parse_of_steps (p := ⟨catalogRead, mode⟩) hsteps
    (foldlM_appointment a hfirst hlast hoffset)
  obtain ⟨hdate, hhour, hminute, hsecond, hnanos⟩ :=
    Moment.localTime_onMinute (Nat.lt_succ_of_le a.hour_le) (Nat.lt_succ_of_le a.minute_le)
      (.ofFields a.year a.month a.day) now.offset
  refine ⟨catalogRead, _, catalog_eq, hparse, rfl, ?_, rfl, ?_, ?_⟩
  · exact {
      year_eq := by rw [hdate, a.isValid.year_eq]
      month_eq := by rw [hdate, a.isValid.month_eq]
      day_eq := by rw [hdate, a.isValid.day_eq]
      hour_eq := hhour
      minute_eq := hminute
      second_eq := hsecond
      nanos_eq := hnanos }
  · exact residual_eq_empty a.toList_text
  · rw [Appointment.toList_beforeClock, Appointment.toList_clock, Appointment.toList_date]
    rfl

/-- In "on Sept 5, 2024 at 07:30" the name of the month is cut short, the day is written with one
digit and the hour with two. -/
def earlyInSeptember : Appointment where
  year := 2024
  month := 9
  day := 5
  hour := 7
  minute := 30
  monthName := "Sept"
  dayWidth := 1
  hourWidth := 2
  isValid := by decide
  year_le := by decide
  hour_le := by decide
  minute_le := by decide
  isMonthName := by decide
  dayWidth_eq := by decide
  hourWidth_eq := by decide

/-- Read on a February day of 2013, the appointment is where it is on the calendar. -/
theorem september_read_back : ∃ c e, catalog = .ok c ∧
    (⟨c, .all⟩ : Parser).parse halfPastFour "on Sept 5, 2024 at 07:30" = .ok e ∧
    e.time.offset = 0 ∧ earlyInSeptember.IsShownBy e.time.localTime ∧ e.duration = .zero ∧
    e.text = "" ∧ e.spans = [⟨16, 24⟩, ⟨0, 15⟩] := by
  have htext : earlyInSeptember.text = "on Sept 5, 2024 at 07:30" := by decide
  obtain ⟨c, e, hc, hparse, hoffset, hshown, hduration, hresidual, hspans⟩ :=
    appointment_read_back earlyInSeptember .all ⟨⟨1360643400, 0⟩, 0⟩ (by decide) (by decide)
      (by decide)
  rw [htext] at hparse
  refine ⟨c, e, hc, hparse, hoffset, hshown, hduration, hresidual, hspans.trans ?_⟩
  decide

end Timephrase.English
