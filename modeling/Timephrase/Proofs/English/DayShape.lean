import Timephrase.Proofs.Calendar.Carry
import Timephrase.Proofs.English.ZoneRange
import Timephrase.Proofs.Run.Account

/-!
# The shape of a result

The words for days set the time to a midnight, and each other rule changes only one thing about it: a
zone the offset, a time of day the hour and the minute, a date the date.  Only a shift can bring in
seconds.  What a result looks like is therefore settled by which rules were applied.

## Main definitions

* `English.daysFromToday`: the days from today that the words for days in a text come to
* `Catalog.Applies`: a run has a match of a rule of a name
* `English.Shaped`: what a time looks like, given the rules that are applied

## Main results

* `English.shaped_of_run`: what the result of a run looks like
* `English.shape_of_result`: the day that a run starts from, and the shape of its result
-/

namespace Timephrase

/-! ## Rules that always mean the same time -/

section Fixed

variable (rule : Rule) (context : Context) (mode : MatchMode) (text : String)
  {f : Context → Moment → Captures → Except Failure Moment} {t : Moment}

/-- A rule that always means the same time sets the time to it if it has a match, however many it
has. -/
theorem Rule.time_of_run (hmeaning : rule.meaning = .time f) (hf : ∀ t' c, f context t' c = .ok t)
    (tally : Tally) : ∃ after, rule.run context mode text tally = .ok after ∧
      after.time = if rule.pattern.findAll text = [] then tally.time else t := by
  have happly : ∀ tally m, Tally.apply context text rule tally m =
      .ok ⟨t, tally.duration, tally.spans ++ [m.span]⟩ := by
    intro tally m
    rw [Tally.apply, hmeaning]
    dsimp only
    rw [hf]
    rfl
  -- On the matches: each sets the time anew, so that it only counts whether there is one.
  have hmatches : ∀ (ms : List Pattern.Match) (tally : Tally), ∃ after,
      ms.foldlM (Tally.apply context text rule) tally = .ok after ∧
        after.time = if ms = [] then tally.time else t := by
    intro ms
    induction ms with
    | nil => exact fun tally => ⟨tally, rfl, rfl⟩
    | cons m ms ih =>
      intro tally
      obtain ⟨after, hafter, htime⟩ := ih ⟨t, tally.duration, tally.spans ++ [m.span]⟩
      refine ⟨after, ?_, ?_⟩
      · rw [List.foldlM_cons, happly]
        exact hafter
      · rw [htime, if_neg (List.cons_ne_nil m ms), ite_self]
  obtain ⟨after, hafter, htime⟩ := hmatches (rule.matchesIn mode text) tally
  refine ⟨after, hafter, htime.trans ?_⟩
  by_cases hnone : rule.pattern.findAll text = []
  · rw [if_pos hnone, matchesIn, hnone]
    cases mode <;> rfl
  · obtain ⟨m, rest, hselect, -⟩ := mode.exists_select_eq_cons hnone
    rw [if_neg hnone, matchesIn, hselect, if_neg (List.cons_ne_nil m rest)]

end Fixed

namespace Catalog

variable {c : Catalog} {context : Context} {mode : MatchMode} {text name : String}

/-- A run over a text has a match of a rule of a name. -/
def Applies (c : Catalog) (mode : MatchMode) (text name : String) : Prop :=
  ∃ step ∈ c.steps mode text, step.1.name = name

/-- A rule that has a match is among those that were applied. -/
theorem Applies.mem_appliedRules {tally : Tally} {passes : List Pass}
    (h : c.Applies mode text name) (htrace : c.trace context mode text = .ok (tally, passes)) :
    name ∈ (passes.filter (·.status.isApplied)).map (·.rule) := by
  obtain ⟨⟨rule, found⟩, hstep, rfl⟩ := h
  obtain ⟨rfl, -⟩ := passes_eq_of_trace htrace
  obtain ⟨rule', hrule, hstep⟩ := List.mem_flatMap.mp hstep
  obtain ⟨found', hfound, heq⟩ := List.mem_map.mp hstep
  obtain ⟨rfl, rfl⟩ := Prod.mk.inj heq
  obtain ⟨hrule, hdue⟩ := List.mem_filter.mp hrule
  have haccounts := rule'.accounts_account mode text
  refine List.mem_map.mpr ⟨rule'.account mode text (Features.scan text), ?_, haccounts.name⟩
  refine List.mem_filter.mpr ⟨List.mem_map_of_mem hrule, ?_⟩
  rw [haccounts.isApplied_iff, haccounts.spans hdue]
  exact List.ne_nil_of_mem (List.mem_map_of_mem hfound)

end Catalog

namespace English

/-! ## What the steps keep -/

/-- What a time looks like, given which rules have matches in a text: it has the offset of a moment
without a zone, it is a full minute without a shift, and a midnight without a time of day or a
shift. -/
structure Shaped (now : Moment) (mode : MatchMode) (text : String) (t : Moment) : Prop where
  offset : ¬ catalogRead.Applies mode text "timezone" → t.offset = now.offset
  minute : ¬ catalogRead.Applies mode text "in offset" → t.localTime.OnMinute
  midnight : ¬ catalogRead.Applies mode text "at time" →
    ¬ catalogRead.Applies mode text "in offset" → t.localTime.IsMidnight

variable {now t t' : Moment} {mode : MatchMode} {text : String} {date : Date}
  {state state' : Moment × Duration} {step : Step} {c : Captures}

theorem shaped_midnight : Shaped now mode text (.ofLocal (.ofDate date) now.offset) := by
  have hmidnight : (Moment.ofLocal (.ofDate date) now.offset).localTime.IsMidnight := by
    rw [Moment.localTime_ofLocal]
    exact LocalTime.isMidnight_ofDate date
  exact ⟨fun _ => rfl, fun _ => hmidnight.onMinute, fun _ _ => hmidnight⟩

theorem shaped_startOfDay : Shaped now mode text now.startOfDay :=
  now.startOfDay_eq ▸ shaped_midnight

theorem shaped_of_dayFromToday {days : Int} (h : dayFromToday days (.at now) c = .ok t) :
    Shaped now mode text t := by
  have hsome : now.startOfDay.shiftWhole? days .day = some t := eq_some_of_inRange h
  rw [Moment.startOfDay_eq] at hsome
  rw [Moment.eq_midnight_of_shiftWhole? hsome]
  exact shaped_midnight

/-- A time of day keeps full minutes. -/
theorem onMinute_of_timeOfDay (h : timeOfDay t c = .ok t') (ht : t.localTime.OnMinute) :
    t'.localTime.OnMinute := by
  obtain ⟨hour, -, h⟩ := exists_of_bind_eq_ok h
  obtain ⟨minute, -, h⟩ := exists_of_bind_eq_ok h
  obtain ⟨-, date, -, hshown⟩ := Moment.localTime_of_ofCarried? (eq_some_of_inRange h)
  rw [hshown, ht.1, ht.2]
  exact LocalTime.onMinute_ofFields

/-- A date keeps what the clock shows. -/
theorem exists_localTime_of_calendarDate (h : calendarDate t c = .ok t') :
    ∃ date, t'.localTime = .ofFields date t.localTime.hour t.localTime.minute t.localTime.second
      t.localTime.nanos := by
  rw [calendarDate_eq] at h
  obtain ⟨month, -, h⟩ := exists_of_bind_eq_ok h
  obtain ⟨day, -, h⟩ := exists_of_bind_eq_ok h
  obtain ⟨year?, -, h⟩ := exists_of_bind_eq_ok h
  obtain ⟨-, date, -, hshown⟩ := Moment.localTime_of_ofCarried? (eq_some_of_inRange h)
  exact ⟨date, hshown⟩

theorem onMinute_of_calendarDate (h : calendarDate t c = .ok t') (ht : t.localTime.OnMinute) :
    t'.localTime.OnMinute := by
  obtain ⟨date, hshown⟩ := exists_localTime_of_calendarDate h
  rw [hshown, ht.1, ht.2]
  exact LocalTime.onMinute_ofFields

theorem isMidnight_of_calendarDate (h : calendarDate t c = .ok t') (ht : t.localTime.IsMidnight) :
    t'.localTime.IsMidnight := by
  obtain ⟨date, hshown⟩ := exists_localTime_of_calendarDate h
  have hsecond : t.localTime.secondOfDay = 0 := by
    rw [ht, LocalTime.secondOfDay_ofDate]
  have hnanos : t.localTime.nanos = 0 := ht.onMinute.2
  rw [hshown, hnanos, LocalTime.hour, LocalTime.minute, LocalTime.second, hsecond]
  exact LocalTime.ofFields_zero ▸ LocalTime.isMidnight_ofDate date

/-- **One step** keeps the shape of the time. -/
theorem Shaped.of_rewrite (h : Shaped now mode text state.1)
    (hmem : step ∈ catalogRead.steps mode text)
    (hstep : step.rewrite (.at now) text state = .ok state') : Shaped now mode text state'.1 := by
  have happlies : catalogRead.Applies mode text step.1.name := ⟨step, hmem, rfl⟩
  obtain ⟨hrule, hfound⟩ := Catalog.mem_of_mem_steps hmem
  obtain ⟨rule, found⟩ := step
  rcases mem_rules_iff.mp hrule with rfl | rfl | rfl | rfl | rfl | rfl | rfl | rfl
  -- The words for days set a midnight, whatever the time was before.
  · obtain ⟨t', ht', rfl⟩ := exists_of_map_eq_ok hstep
    exact shaped_of_dayFromToday ht'
  · obtain ⟨t', ht', rfl⟩ := exists_of_map_eq_ok hstep
    exact shaped_of_dayFromToday ht'
  · cases hstep
    exact shaped_startOfDay
  · obtain ⟨t', ht', rfl⟩ := exists_of_map_eq_ok hstep
    refine ⟨fun hzone => ?_, fun hshift => ?_, fun hclock => absurd happlies hclock⟩
    · exact (isBuilt_of_timeOfDay ht').offset_eq.trans (h.offset hzone)
    · exact onMinute_of_timeOfDay ht' (h.minute hshift)
  · -- The rule for lengths of time leaves the time as it is.
    obtain ⟨d, -, rfl⟩ := exists_of_map_eq_ok hstep
    exact h
  · obtain ⟨t', ht', rfl⟩ := exists_of_map_eq_ok hstep
    refine ⟨fun hzone => ?_, fun hshift => ?_, fun hclock hshift => ?_⟩
    · exact (isBuilt_of_calendarDate ht').offset_eq.trans (h.offset hzone)
    · exact onMinute_of_calendarDate ht' (h.minute hshift)
    · exact isMidnight_of_calendarDate ht' (h.midnight hclock hshift)
  · -- After a shift only the offset is known.
    obtain ⟨t', ht', rfl⟩ := exists_of_map_eq_ok hstep
    obtain ⟨amount, grain, -, hshift⟩ := exists_shift?_of_shifted ht'
    refine ⟨fun hzone => ?_, fun hnone => absurd happlies hnone, fun _ hnone =>
      absurd happlies hnone⟩
    exact (Moment.kept_of_shift? hshift).1.trans (h.offset hzone)
  · obtain ⟨t', ht', rfl⟩ := exists_of_map_eq_ok hstep
    -- A zone is laid on what the clock shows.
    obtain ⟨zone, -, hzone⟩ := exists_lookup_eq_ok hfound
    have hshown : t'.localTime = state.1.localTime := ((inZone_eq_ok_iff hzone).mp ht').1.shown
    refine ⟨fun hnone => absurd happlies hnone, fun hshift => ?_, fun hclock hshift => ?_⟩
    · exact hshown ▸ h.minute hshift
    · exact hshown ▸ h.midnight hclock hshift

/-- **What the result of a run looks like.** -/
theorem shaped_of_run {tally : Tally} (h : catalogRead.run (.at now) mode text = .ok tally) :
    Shaped now mode text tally.time :=
  Catalog.invariant_of_run (P := fun state => Shaped now mode text state.1)
    shaped_startOfDay (fun _ _ _ hmem hshaped => hshaped.of_rewrite hmem) h

/-! ## The words for days -/

/-- The days from today that the words for days in a text come to: "today" goes before "tomorrow" and
that before "yesterday", wherever they stand. -/
def daysFromToday (text : String) : Int :=
  if todayRule.pattern.findAll text ≠ [] then 0
  else if tomorrowRule.pattern.findAll text ≠ [] then 1
  else if yesterdayRule.pattern.findAll text ≠ [] then -1
  else 0

section Usual

variable (hyear : 0 ≤ now.localTime.date.year ∧ now.localTime.date.year ≤ 9999)
  (hoffset : -86400 < now.offset ∧ now.offset < 86400)
include hyear hoffset

theorem dayFromToday_eq {days : Int} (hdays : -1 ≤ days ∧ days ≤ 1) (c : Captures) :
    dayFromToday days (.at now) c =
      .ok (.ofLocal (.ofDate (now.localTime.date.addDays days)) now.offset) := by
  have hsome : (Context.at now).today.shiftWhole? days .day =
      some (.ofLocal (.ofDate (now.localTime.date.addDays days)) now.offset) :=
    Moment.shiftWhole?_startOfDay hyear hoffset hdays
  rw [dayFromToday, hsome, inRange]

/-- **The words for days** set the time to a midnight about the moment of reference, and do not
fail. -/
theorem exists_run_of_days (mode : MatchMode) (text : String) : ∃ tally,
    (⟨catalogRead.rules.take 3⟩ : Catalog).run (.at now) mode text = .ok tally ∧
      tally.time =
        .ofLocal (.ofDate (now.localTime.date.addDays (daysFromToday text))) now.offset := by
  obtain ⟨first, hfirst, hyesterday⟩ := Rule.time_of_run yesterdayRule (.at now) mode text rfl
    (fun _ => dayFromToday_eq hyear hoffset (by decide)) (.start (.at now))
  obtain ⟨second, hsecond, htomorrow⟩ := Rule.time_of_run tomorrowRule (.at now) mode text rfl
    (fun _ => dayFromToday_eq hyear hoffset (by decide)) first
  obtain ⟨third, hthird, htoday⟩ := Rule.time_of_run todayRule (.at now) mode text rfl
    (fun _ _ => rfl) second
  refine ⟨third, ?_, ?_⟩
  · rw [Catalog.run_eq_foldlM_pass]
    show (yesterdayRule.pass (.at now) mode text (.start (.at now)) >>= _) = _
    rw [Rule.pass_of_includes rfl (Features.includes_none _), hfirst]
    show (tomorrowRule.pass (.at now) mode text first >>= _) = _
    rw [Rule.pass_of_includes rfl (Features.includes_none _), hsecond]
    show (todayRule.pass (.at now) mode text second >>= _) = _
    rw [Rule.pass_of_includes rfl (Features.includes_none _), hthird]
    rfl
  -- The last of the three that has a match counts, as each sets the time anew.
  · have hnone : now.localTime.date.addDays 0 = now.localTime.date := by
      rw [Date.addDays, Int.add_zero]
    have hstart : (Context.at now).today =
        .ofLocal (.ofDate (now.localTime.date.addDays 0)) now.offset := by
      rw [hnone]
      exact now.startOfDay_eq
    have hbefore : (Tally.start (.at now)).time = (Context.at now).today := rfl
    rw [htoday, htomorrow, hyesterday, hbefore, hstart, daysFromToday]
    simp only [ne_eq, ite_not]
    split_ifs <;> rfl

/-- **The shape of a result.**  Let a text be parsed at a moment of the years 0 to 9999.  The first
three rules leave a midnight: that of today if "today" is in the text, otherwise that of tomorrow if
"tomorrow" is, of yesterday if "yesterday" is, and of today if none of them is.  The result has the
offset of the moment unless the rule for zones was applied, shows a full minute unless the rule for
shifts was, and shows a midnight unless that rule or the one for times of day was. -/
theorem shape_of_result (mode : MatchMode) (text : String) : ∃ c, catalog = .ok c ∧
    (∃ tally, (⟨c.rules.take 3⟩ : Catalog).run (.at now) mode text = .ok tally ∧
      tally.time =
        .ofLocal (.ofDate (now.localTime.date.addDays (daysFromToday text))) now.offset) ∧
    ∀ e, (⟨c, mode⟩ : Parser).parse (.at now) text = .ok e → ∃ traced,
      (⟨c, mode⟩ : Parser).parseTraced (.at now) text = .ok traced ∧ traced.result = e ∧
      ("timezone" ∉ traced.appliedRules → e.time.offset = now.offset) ∧
      ("in offset" ∉ traced.appliedRules →
        e.time.localTime.second = 0 ∧ e.time.localTime.nanos = 0) ∧
      ("at time" ∉ traced.appliedRules → "in offset" ∉ traced.appliedRules →
        e.time.localTime = .ofDate e.time.localTime.date) := by
  refine ⟨catalogRead, catalog_eq, exists_run_of_days hyear hoffset mode text, fun e he => ?_⟩
  obtain ⟨tally, hrun, rfl⟩ := exists_of_map_eq_ok he
  have hshaped := shaped_of_run hrun
  rw [← Catalog.map_trace] at hrun
  obtain ⟨⟨traced, passes⟩, htrace, rfl⟩ := exists_of_map_eq_ok hrun
  have happlied : ∀ name, name ∉ (passes.filter (·.status.isApplied)).map (·.rule) →
      ¬ catalogRead.Applies mode text name := fun _ hnot h => hnot (h.mem_appliedRules htrace)
  refine ⟨⟨.ofTally text traced, .at now, passes⟩, ?_, rfl, fun hzone => ?_, fun hshift => ?_,
    fun hclock hshift => ?_⟩
  · rw [Parser.parseTraced, htrace]
    rfl
  · exact hshaped.offset (happlied _ hzone)
  · exact hshaped.minute (happlied _ hshift)
  · exact hshaped.midnight (happlied _ hclock) (happlied _ hshift)

end Usual

/-- "tomorrow" goes before "yesterday" although it stands first, and the date that follows leaves a
midnight. -/
theorem shape_of_lunch : ∃ c tally e, catalog = .ok c ∧
    (⟨c.rules.take 3⟩ : Catalog).run halfPastFour .all "lunch tomorrow, not yesterday, on may 3" =
      .ok tally ∧
    tally.time = ⟨⟨1360713600, 0⟩, 0⟩ ∧
    (⟨c, .all⟩ : Parser).parse halfPastFour "lunch tomorrow, not yesterday, on may 3" = .ok e ∧
    e.time.offset = 0 ∧ e.time.localTime = .ofDate e.time.localTime.date := by
  obtain ⟨c, hc, ⟨tally, hrun, htime⟩, hshape⟩ := @shape_of_result
    ⟨⟨1360643400, 0⟩, 0⟩ (by decide) (by decide) .all
    "lunch tomorrow, not yesterday, on may 3"
  obtain rfl := catalogRead_eq hc
  have happlied : ((⟨catalogRead, .all⟩ : Parser).parseTraced halfPastFour
      "lunch tomorrow, not yesterday, on may 3").map (·.appliedRules) =
        .ok ["yesterday", "tomorrow", "date"] := by
    decide +kernel
  have hok : ((⟨catalogRead, .all⟩ : Parser).parse halfPastFour
      "lunch tomorrow, not yesterday, on may 3").isOk = true := by
    decide +kernel
  obtain ⟨e, he⟩ := exists_of_isOk hok
  obtain ⟨traced, htraced, -, hzone, -, hmidnight⟩ := hshape e he
  have happlied : traced.appliedRules = ["yesterday", "tomorrow", "date"] := by
    obtain ⟨traced', htraced', happlied⟩ := exists_of_map_eq_ok happlied
    obtain rfl := Except.ok.inj (htraced.symm.trans htraced')
    exact happlied
  rw [happlied] at hzone hmidnight
  refine ⟨catalogRead, tally, e, hc, hrun, ?_, he, hzone (by decide),
    hmidnight (by decide) (by decide)⟩
  rw [htime]
  decide +kernel

end English

end Timephrase
