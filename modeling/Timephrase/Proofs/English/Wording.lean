import Timephrase.Proofs.Captures
import Timephrase.Proofs.English.Month
import Timephrase.Proofs.English.ZoneOnClock
import Timephrase.Proofs.Pattern.Outline
import Timephrase.Proofs.Run.Reach

/-!
# What the rules find in an appointment

An appointment names a date and a time of day, as in "on oct 26, 1985 at 9:05".  In all wordings of
one the rule for times of day and the rule for dates each find their part, and no rule finds anything
else.  The patterns see no more of a wording than its outline, and there are only so many outlines.

## Main definitions

* `English.Wording`: an appointment as it is written
* `English.Wording.outlines`: the outlines of appointments

## Main results

* `English.Wording.findAll_date`, `English.Wording.findAll_clock`: what the two rules find
* `English.Wording.steps_eq`: the steps of a run over an appointment
-/

namespace Timephrase

theorem Recoding.after_map {f : Char → Char} (hf : Recoding f) (u w : List Char) :
    Span.after (u.map f) (w.map f) = Span.after u w := by
  rw [Span.after, Span.after, ← List.map_append, hf.size_map, hf.size_map]

namespace English

open Pattern Pattern.Node Pattern.Cursor

/-! ## Wordings -/

/-- What differs between appointments, as it is written. -/
structure Wording where
  month : List Char
  day : List Char
  year : List Char
  hour : List Char
  minute : List Char

namespace Wording

variable (w : Wording)

/-- What stands before the month. -/
def beforeMonth : List Char := ['o', 'n', ' ']

/-- What stands before the day. -/
def beforeDay : List Char := beforeMonth ++ w.month ++ [' ']

/-- What stands before the year. -/
def beforeYear : List Char := w.beforeDay ++ w.day ++ [',', ' ']

/-- The date, as in "on oct 26, 1985". -/
def date : List Char := w.beforeYear ++ w.year

/-- What stands before the time of day. -/
def beforeClock : List Char := w.date ++ [' ']

/-- The time of day, as in "at 9:05". -/
def clock : List Char := ['a', 't', ' '] ++ w.hour ++ [':'] ++ w.minute

/-- The whole appointment, as in "on oct 26, 1985 at 9:05". -/
def chars : List Char := w.beforeClock ++ w.clock

/-- What stands before the hour. -/
def beforeHour : List Char := w.beforeClock ++ ['a', 't', ' ']

/-- What stands before the minute. -/
def beforeMinute : List Char := w.beforeHour ++ w.hour ++ [':']

/-- The parts stand where they are said to. -/
theorem exists_chars_eq :
    (∃ v, w.chars = beforeMonth ++ w.month ++ v) ∧ (∃ v, w.chars = w.beforeDay ++ w.day ++ v) ∧
      (∃ v, w.chars = w.beforeYear ++ w.year ++ v) ∧ (∃ v, w.chars = w.beforeHour ++ w.hour ++ v) ∧
      ∃ v, w.chars = w.beforeMinute ++ w.minute ++ v := by
  have hyear : w.chars = w.beforeYear ++ w.year ++ (' ' :: w.clock) := by
    simp [chars, beforeClock, date]
  have hday : w.chars = w.beforeDay ++ w.day ++ ([',', ' '] ++ w.year ++ (' ' :: w.clock)) := by
    simp [hyear, beforeYear]
  refine ⟨?_, ⟨_, hday⟩, ⟨_, hyear⟩, ?_, ?_⟩
  · exact ⟨' ' :: w.day ++ ([',', ' '] ++ w.year ++ (' ' :: w.clock)), by simp [hday, beforeDay]⟩
  · exact ⟨':' :: w.minute, by simp [chars, clock, beforeHour]⟩
  · exact ⟨[], by simp [chars, clock, beforeHour, beforeMinute]⟩

/-- The match of the pattern for dates. -/
def dateMatch : Match where
  span := .after [] w.date
  groups := [(4, .after w.beforeYear w.year), (3, .after w.beforeDay w.day),
    (2, .after beforeMonth w.month)]

/-- The match of the pattern for times of day. -/
def clockMatch : Match where
  span := .after w.beforeClock w.clock
  groups := [(2, .after w.beforeMinute w.minute), (1, .after w.beforeHour w.hour)]

theorem group?_dateMatch : w.dateMatch.group? 2 = some (.after beforeMonth w.month) ∧
    w.dateMatch.group? 3 = some (.after w.beforeDay w.day) ∧
    w.dateMatch.group? 4 = some (.after w.beforeYear w.year) := ⟨rfl, rfl, rfl⟩

theorem group?_clockMatch : w.clockMatch.group? 1 = some (.after w.beforeHour w.hour) ∧
    w.clockMatch.group? 2 = some (.after w.beforeMinute w.minute) ∧
    w.clockMatch.group? 3 = none := ⟨rfl, rfl, rfl⟩

/-! ### In outline -/

/-- The wording in outline. -/
def outline : Wording where
  month := w.month.map Ascii.outline
  day := w.day.map Ascii.outline
  year := w.year.map Ascii.outline
  hour := w.hour.map Ascii.outline
  minute := w.minute.map Ascii.outline

/-- What all appointments have in common is its own outline. -/
theorem outline_common : beforeMonth.map Ascii.outline = beforeMonth ∧
    [' '].map Ascii.outline = [' '] ∧ [',', ' '].map Ascii.outline = [',', ' '] ∧
    ['a', 't', ' '].map Ascii.outline = ['a', 't', ' '] ∧ [':'].map Ascii.outline = [':'] := by
  decide

theorem beforeDay_outline : w.outline.beforeDay = w.beforeDay.map Ascii.outline := by
  obtain ⟨hon, hspace, -⟩ := outline_common
  simp only [beforeDay, List.map_append, hon, hspace, outline]

theorem beforeYear_outline : w.outline.beforeYear = w.beforeYear.map Ascii.outline := by
  obtain ⟨-, -, hcomma, -⟩ := outline_common
  simp only [beforeYear, List.map_append, ← beforeDay_outline, hcomma, outline]

theorem date_outline : w.outline.date = w.date.map Ascii.outline := by
  simp only [date, List.map_append, ← beforeYear_outline, outline]

theorem beforeClock_outline : w.outline.beforeClock = w.beforeClock.map Ascii.outline := by
  obtain ⟨-, hspace, -⟩ := outline_common
  simp only [beforeClock, List.map_append, ← date_outline, hspace]

theorem clock_outline : w.outline.clock = w.clock.map Ascii.outline := by
  obtain ⟨-, -, -, hat, hcolon⟩ := outline_common
  simp only [clock, List.map_append, hat, hcolon, outline]

theorem chars_outline : w.outline.chars = w.chars.map Ascii.outline := by
  simp only [chars, List.map_append, ← beforeClock_outline, ← clock_outline]

theorem beforeHour_outline : w.outline.beforeHour = w.beforeHour.map Ascii.outline := by
  obtain ⟨-, -, -, hat, -⟩ := outline_common
  simp only [beforeHour, List.map_append, ← beforeClock_outline, hat]

theorem beforeMinute_outline : w.outline.beforeMinute = w.beforeMinute.map Ascii.outline := by
  obtain ⟨-, -, -, -, hcolon⟩ := outline_common
  simp only [beforeMinute, List.map_append, ← beforeHour_outline, hcolon, outline]

theorem dateMatch_outline : w.outline.dateMatch = w.dateMatch := by
  have hmap := recoding_outline.after_map
  have hdate : Span.after [] (w.date.map Ascii.outline) = .after [] w.date := hmap [] w.date
  have hmonth : Span.after beforeMonth (w.month.map Ascii.outline) = .after beforeMonth w.month := by
    rw [← hmap beforeMonth w.month, outline_common.1]
  rw [dateMatch, date_outline, beforeYear_outline, beforeDay_outline]
  simp only [outline, hmap, hdate, hmonth]
  rfl

theorem clockMatch_outline : w.outline.clockMatch = w.clockMatch := by
  have hmap := recoding_outline.after_map
  rw [clockMatch, beforeClock_outline, clock_outline, beforeMinute_outline, beforeHour_outline]
  simp only [outline, hmap]
  rfl

/-- The outlines of appointments: a name of a month, one or two digits for the day and for the hour,
four for the year, and two for the minute. -/
def outlines : List Wording :=
  monthNames.flatMap fun entry => [['0'], ['0', '0']].flatMap fun day =>
    [['0'], ['0', '0']].map fun hour => ⟨entry.1, day, ['0', '0', '0', '0'], hour, ['0', '0']⟩

theorem mem_outlines_iff {w : Wording} : w ∈ outlines ↔
    (∃ month, (w.month, month) ∈ monthNames) ∧ w.day ∈ [['0'], ['0', '0']] ∧
      w.year = ['0', '0', '0', '0'] ∧ w.hour ∈ [['0'], ['0', '0']] ∧ w.minute = ['0', '0'] := by
  simp only [outlines, List.mem_flatMap, List.mem_map]
  constructor
  · rintro ⟨entry, hentry, day, hday, hour, hhour, rfl⟩
    exact ⟨⟨entry.2, hentry⟩, hday, rfl, hhour, rfl⟩
  · rintro ⟨⟨month, hmonth⟩, hday, hyear, hhour, hminute⟩
    refine ⟨_, hmonth, _, hday, _, hhour, ?_⟩
    rw [← hyear, ← hminute]

/-- The characters of all appointments outside the names of months, in outline. -/
def commonChars : List Char := ['o', 'n', ' ', ',', 'a', 't', ':', '0']

/-- The characters from the end of the date on, in outline. -/
def clockChars : List Char := [' ', 'a', 't', ':', '0']

/-- Whether a text starts as a time of day does. -/
def startsClock : List Char → Bool
  | a :: t :: b :: _ => (letterSet 'a').mem a && (letterSet 't').mem t && blankSet.mem b
  | _ => false

/-- The match made by the first of the listed ways through a node. -/
def firstMatch? (node : Node) (c : Cursor) : Option Match :=
  (node.ways c).head?.map fun way => ⟨⟨c.offset, way.1.offset⟩, way.2⟩

theorem startsClock_outline (v : List Char) : startsClock (v.map Ascii.outline) = startsClock v := by
  have ha : (letterSet 'a').seesOutline = true := by decide
  have ht : (letterSet 't').seesOutline = true := by decide
  have hb : blankSet.seesOutline = true := by decide
  match v with
  | a :: t :: b :: _ =>
    simp only [List.map_cons, startsClock, CharSet.mem_outline ha, CharSet.mem_outline ht,
      CharSet.mem_outline hb]
  | [] | [_] | [_, _] => rfl

/-- What a time of day is written at the start of starts as one. -/
theorem startsClock_of_reads {k : Clock} {more u v : List Char} {d : Cursor}
    (h : (between u v).Reads (k.word ++ more) d) : startsClock v = true := by
  have hv : v = k.word ++ more ++ d.rest := h.rest_eq
  rw [hv, Clock.word, Clock.lead]
  simp [startsClock, k.a_mem, k.t_mem, k.blank_mem]

-- The outlines are gone through by computation.  Each is a text that is written out.
/-- In an outline the date and the time of day are matched where they are, and only the time of day
starts as one does. -/
theorem matches_of_outlines : ∀ w ∈ outlines,
    firstMatch? dateNode (between [] w.chars) = some w.dateMatch ∧
      firstMatch? atTimeNode (between w.beforeClock w.clock) = some w.clockMatch ∧
      ∀ v ∈ w.chars.tails, startsClock v = true → v = w.clock := by
  decide +kernel

/-- The characters of an outline, and those from the end of the date on. -/
theorem chars_of_outlines : ∀ w ∈ outlines,
    w.chars.all (w.month ++ commonChars).contains = true ∧
      (' ' :: w.clock).all clockChars.contains = true := by
  decide

/-! ### What the patterns see -/

/-- The patterns of all rules but the one for zones see no more of a text than its outline. -/
theorem seesOutline_of_mem_rules : ∀ rule ∈ [yesterdayRule, tomorrowRule, todayRule, atTimeRule,
    durationRule, dateRule, inOffsetRule],
      rule.pattern.node.isLoopFree = true ∧ rule.pattern.node.seesOutline = true := by
  decide +kernel

/-- The patterns of the rules that find nothing need a character that no appointment has, and the
pattern for dates one that no time of day has. -/
theorem needs_of_names : (∀ entry ∈ monthNames,
    ∀ rule ∈ [yesterdayRule, tomorrowRule, todayRule, durationRule, inOffsetRule],
      rule.pattern.node.needs (holdsNoneOf (entry.1 ++ commonChars)) = true) ∧
    dateNode.needs (holdsNoneOf clockChars) = true := by
  decide +kernel

variable {w} (hw : w.outline ∈ outlines)
include hw

theorem matchAt?_date : matchAt? dateNode (between [] w.chars) = some w.dateMatch := by
  obtain ⟨hloop, hsees⟩ := seesOutline_of_mem_rules dateRule (by simp)
  obtain ⟨hfirst, -⟩ := matches_of_outlines _ hw
  rw [← dateMatch_outline, ← hfirst, chars_outline]
  exact (matchAt?_outline hloop hsees [] w.chars).symm.trans (matchAt?_eq_head? hloop _)

theorem matchAt?_clock :
    matchAt? atTimeNode (between w.beforeClock w.clock) = some w.clockMatch := by
  obtain ⟨hloop, hsees⟩ := seesOutline_of_mem_rules atTimeRule (by simp)
  obtain ⟨-, hfirst, -⟩ := matches_of_outlines _ hw
  rw [← clockMatch_outline, ← hfirst, beforeClock_outline, clock_outline]
  exact (matchAt?_outline hloop hsees w.beforeClock w.clock).symm.trans
    (matchAt?_eq_head? hloop _)

/-- Only the time of day starts as one does. -/
theorem eq_of_startsClock {u v : List Char} (huv : w.chars = u ++ v) (h : startsClock v = true) :
    u = w.beforeClock ∧ v = w.clock := by
  have htail : v.map Ascii.outline ∈ w.outline.chars.tails := by
    rw [chars_outline, huv, List.map_append]
    exact (List.mem_tails _ _).mpr (List.suffix_append _ _)
  obtain ⟨-, -, hstarts⟩ := matches_of_outlines _ hw
  have hclock := hstarts _ htail ((startsClock_outline v).trans h)
  rw [clock_outline] at hclock
  -- A tail of the text is known from its length.
  have hlength : v.length = w.clock.length := by
    simpa using congrArg List.length hclock
  exact List.append_inj' (huv.symm.trans (chars.eq_def w)) hlength

/-! ### What the rules find -/

variable {text : String} (ht : text.toList = w.chars)
include ht

/-- **The rule for times of day finds the time of day**, and nothing else. -/
theorem findAll_clock : atTimeRule.pattern.findAll text = [w.clockMatch] := by
  have hsize : 0 < Utf8.size w.clock := Utf8.size_pos (by simp [clock])
  have hstop : w.clockMatch.span.stop = Utf8.size w.beforeClock + Utf8.size w.clock :=
    Utf8.size_append _ _
  refine findAll_eq_singleton (u := w.beforeClock) (v := w.clock) ht (matchAt?_clock hw) ?_ ?_
  · show Utf8.size w.beforeClock < w.clockMatch.span.stop
    omega
  · intro u v huv hout
    -- Any match starts as a time of day does, and nothing outside the time of day does that.
    refine Option.eq_none_iff_forall_ne_some.mpr fun m hm => ?_
    obtain ⟨d, hway, -⟩ := way_of_matchAt? hm
    obtain ⟨-, -, k, hread⟩ := exists_clock_of_atTime hway
    have hstarts : startsClock v = true := by
      rw [← List.append_nil k.word] at hread
      exact startsClock_of_reads hread
    obtain ⟨rfl, rfl⟩ := eq_of_startsClock hw (ht.symm.trans huv) hstarts
    omega

/-- **The rule for dates finds the date**, and nothing else. -/
theorem findAll_date : dateRule.pattern.findAll text = [w.dateMatch] := by
  obtain ⟨hloop, hsees⟩ := seesOutline_of_mem_rules dateRule (by simp)
  obtain ⟨-, hneeds⟩ := needs_of_names
  refine findAll_eq_singleton (u := []) (v := w.chars) ht (matchAt?_date hw) ?_ ?_
  · exact Utf8.size_pos (by simp [date, beforeYear, beforeDay, beforeMonth])
  · intro u v huv hout
    -- No month can be made of what comes after the date.
    have hafter : Utf8.size w.date ≤ Utf8.size u := hout.resolve_left (Nat.not_lt_zero _)
    have hparts : w.date ++ (' ' :: w.clock) = u ++ v := by
      rw [← huv, ht, chars, beforeClock, List.append_assoc]
      rfl
    obtain ⟨x, rfl, hv⟩ := Utf8.exists_of_append_eq_append hparts hafter
    obtain ⟨-, hchars⟩ := chars_of_outlines _ hw
    have hspace : ' ' :: w.outline.clock = (' ' :: w.clock).map Ascii.outline := by
      rw [clock_outline, List.map_cons]
      rfl
    rw [hspace, hv, List.map_append, List.all_append] at hchars
    obtain ⟨-, hchars⟩ := Bool.and_eq_true_iff.mp hchars
    rw [← matchAt?_outline hloop hsees]
    exact matchAt?_eq_none_of_needs hneeds fun c hc =>
      List.contains_iff_mem.mp (List.all_eq_true.mp hchars c hc)

/-- The rules for single words, lengths of time and shifts find nothing. -/
theorem findAll_eq_nil_of_mem {rule : Rule}
    (hrule : rule ∈ [yesterdayRule, tomorrowRule, todayRule, durationRule, inOffsetRule]) :
    rule.pattern.findAll text = [] := by
  have hseen : rule ∈ [yesterdayRule, tomorrowRule, todayRule, atTimeRule, durationRule, dateRule,
      inOffsetRule] := by
    simp only [List.mem_cons, List.not_mem_nil, or_false] at hrule ⊢
    tauto
  obtain ⟨hloop, hsees⟩ := seesOutline_of_mem_rules rule hseen
  obtain ⟨⟨month, hmonth⟩, -⟩ := mem_outlines_iff.mp hw
  have hneeds := needs_of_names.1 _ hmonth rule hrule
  obtain ⟨hchars, -⟩ := chars_of_outlines _ hw
  rw [chars_outline, ← ht] at hchars
  -- Wherever a match is looked for, what follows lacks a character that the pattern needs.
  refine findAll_eq_nil fun u v huv => ?_
  rw [huv, List.map_append, List.all_append] at hchars
  rw [← matchAt?_outline hloop hsees]
  exact matchAt?_eq_none_of_needs hneeds fun c hc => List.contains_iff_mem.mp
    (List.all_eq_true.mp (Bool.and_eq_true_iff.mp hchars).2 c hc)

/-- The rule for zones finds nothing if the time of day has no capitals. -/
theorem findAll_timezone (hcapital : ∀ c ∈ w.clock, c.isUpper = false) :
    timezoneRule.pattern.findAll text = [] := by
  have hneeds : timezoneNode.needs (CharSet.within 0x41 0x5A) = true := by decide
  refine findAll_eq_nil fun u v huv => Option.eq_none_iff_forall_ne_some.mpr fun m hm => ?_
  obtain ⟨d, hway, -⟩ := way_of_matchAt? hm
  obtain ⟨-, k, gap, e, e', code, hcode, hgap, hread, -⟩ := exists_code_of_timezone hway
  obtain ⟨rfl, rfl⟩ := eq_of_startsClock hw (ht.symm.trans huv) (startsClock_of_reads hread)
  -- The code of the zone has a capital, which would be one of the time of day.
  obtain ⟨r, hr, c, hc, s, hs, hmem⟩ := hway.exists_mem_of_needs hneeds
  have hrest : w.clock = r ++ d.rest := hr.rest_eq
  have hupper := hcapital c (hrest ▸ List.mem_append_left _ hc)
  rw [Ascii.isUpper_iff.mpr (CharSet.toNat_of_within hs hmem)] at hupper
  cases hupper

/-! ### Steps -/

/-- **The steps of a run over an appointment** are the time of day and then the date, whichever
matches count. -/
theorem steps_eq (hcapital : ∀ c ∈ w.clock, c.isUpper = false) (mode : MatchMode) :
    catalogRead.steps mode text = [(atTimeRule, w.clockMatch), (dateRule, w.dateMatch)] := by
  have hnone : ∀ rule ∈ [yesterdayRule, tomorrowRule, todayRule, durationRule, inOffsetRule],
      rule.pattern.findAll text = [] := fun rule => findAll_eq_nil_of_mem hw ht
  have hclock := findAll_clock hw ht
  have hdate := findAll_date hw ht
  -- The digits of the time of day keep every rule that finds something from being passed over.
  have hdue : ∀ rule ∈ catalogRead.rules, rule.pattern.findAll text ≠ [] →
      rule.isDue text = true := by
    intro rule hrule h
    have hdigit : hasDigit text = true := hasDigit_of_atTime (hclock ▸ List.cons_ne_nil _ _)
    rw [Rule.isDue, enabled_of_mem_rules rule hrule,
      includes_of_findAll hrule (Or.inl hdigit) h]
    rfl
  have hclockDue := hdue atTimeRule (by simp [catalogRead]) (hclock ▸ List.cons_ne_nil _ _)
  have hdateDue := hdue dateRule (by simp [catalogRead]) (hdate ▸ List.cons_ne_nil _ _)
  rw [catalogRead, Catalog.steps_cons_of_findAll_eq_nil (hnone yesterdayRule (by simp)),
    Catalog.steps_cons_of_findAll_eq_nil (hnone tomorrowRule (by simp)),
    Catalog.steps_cons_of_findAll_eq_nil (hnone todayRule (by simp)),
    Catalog.steps_cons_of_findAll_eq_singleton hclockDue hclock,
    Catalog.steps_cons_of_findAll_eq_nil (hnone durationRule (by simp)),
    Catalog.steps_cons_of_findAll_eq_singleton hdateDue hdate,
    Catalog.steps_cons_of_findAll_eq_nil (hnone inOffsetRule (by simp)),
    Catalog.steps_cons_of_findAll_eq_nil (findAll_timezone hw ht hcapital)]
  rfl

end Wording

end English

end Timephrase
