import Timephrase.CommandLine.Arguments
import Timephrase.CommandLine.Report
import Timephrase.Proofs.Calendar.Radix
import Timephrase.Proofs.Calendar.Timestamp
import Timephrase.Proofs.English.DayShape

/-!
# The printed time read back

A timestamp has no room for the seconds of an offset, which the clocks of most zones had before
there was standard time.  The time of a result is printed with its offset rounded to the minute.
Read back as a moment of reference it shows the same local time, and it is the same moment just if
nothing was rounded.

## Main definitions

* `Zone.wholeSince`: the instant from which all zones have offsets of whole minutes
* `Zone.WholeMinutes`: the offsets of a zone from an instant on are of whole minutes

## Main results

* `Zone.dvd_offsetAt`: the offsets of zones since standard time
* `English.isLeap_of_parse`: no result lies in a leap second
* `English.offset_of_parse`: where the offset of a result comes from
* `English.printed_time_read_back`: what the printed time denotes
-/

namespace Timephrase

/-! ## Zones of whole minutes -/

namespace Zone

/-- The evening of 12 June 1935 by universal time, when the clocks of Tehran were set to a full
minute as the last ones. -/
def wholeSince : Int := -1090466744

/-- Where an offset holds up to some changes, what is in force at the instant `since` or later is of
whole minutes. -/
def WholeMinutesFrom (since : Int) : Int → List ZoneChange → Prop
  | offset, [] => 60 ∣ offset
  | offset, c :: cs => (c.instant ≤ since ∨ 60 ∣ offset) ∧ WholeMinutesFrom since c.offset cs

instance WholeMinutesFrom.decidable (since : Int) :
    ∀ offset changes, Decidable (WholeMinutesFrom since offset changes)
  | offset, [] => inferInstanceAs (Decidable (60 ∣ offset))
  | _, c :: cs =>
    have := WholeMinutesFrom.decidable since c.offset cs
    inferInstanceAs (Decidable (_ ∧ _))

/-- The offsets of a zone are of whole minutes from an instant on. -/
def WholeMinutes (z : Zone) (since : Int) : Prop := WholeMinutesFrom since z.first z.changes

instance (z : Zone) (since : Int) : Decidable (z.WholeMinutes since) :=
  WholeMinutesFrom.decidable since z.first z.changes

variable {z : Zone} {since instant offset : Int} {changes : List ZoneChange}

theorem WholeMinutesFrom.dvd (h : WholeMinutesFrom since offset changes) (hle : since ≤ instant) :
    60 ∣ offsetFrom instant offset changes := by
  induction changes generalizing offset with
  | nil => exact h
  | cons change changes ih =>
    obtain ⟨hhere, hthere⟩ := h
    rw [offsetFrom]
    split
    · next hlt => exact hhere.resolve_left (by omega)
    · exact ih hthere

theorem wholeMinutes_of_mem_all : ∀ z ∈ all, z.WholeMinutes wholeSince := by
  decide +kernel

/-- **The offsets of zones since standard time** are of whole minutes. -/
theorem dvd_offsetAt (hz : z ∈ all) (h : wholeSince ≤ instant) : 60 ∣ z.offsetAt instant :=
  (wholeMinutes_of_mem_all z hz).dvd h

theorem natAbs_offset_of_mem_all :
    ∀ z ∈ all, ∀ offset ∈ z.first :: z.changes.map (·.offset), offset.natAbs < 57600 := by
  decide +kernel

/-- The clocks of a zone of the tables are less than sixteen hours off. -/
theorem natAbs_offsetAt_lt (hz : z ∈ all) (instant : Int) : (z.offsetAt instant).natAbs < 57600 :=
  natAbs_offset_of_mem_all z hz _ (offsetFrom_mem instant z.first z.changes)

end Zone

namespace English

open CommandLine

variable {now t t' : Moment} {mode : MatchMode} {text : String} {step : Step} {c : Captures}
  {state state' : Moment × Duration} {e : Extraction}

/-! ## Leap seconds -/

theorem isLeap_startOfDay (now : Moment) : now.startOfDay.utc.isLeap = false := by
  rw [Moment.startOfDay_eq]
  rfl

theorem isLeap_of_dayFromToday {days : Int} (h : dayFromToday days (.at now) c = .ok t) :
    t.utc.isLeap = false :=
  Moment.isLeap_of_shiftWhole? (isLeap_startOfDay now) (eq_some_of_inRange h)

/-- **One step** does not lead into a leap second. -/
theorem isLeap_of_rewrite (hrule : step.1 ∈ catalogRead.rules) (h : state.1.utc.isLeap = false)
    (hstep : step.rewrite (.at now) text state = .ok state') : state'.1.utc.isLeap = false := by
  obtain ⟨rule, found⟩ := step
  rcases mem_rules_iff.mp hrule with rfl | rfl | rfl | rfl | rfl | rfl | rfl | rfl
  · obtain ⟨t', ht', rfl⟩ := exists_of_map_eq_ok hstep
    exact isLeap_of_dayFromToday ht'
  · obtain ⟨t', ht', rfl⟩ := exists_of_map_eq_ok hstep
    exact isLeap_of_dayFromToday ht'
  · cases hstep
    exact isLeap_startOfDay now
  · obtain ⟨t', ht', rfl⟩ := exists_of_map_eq_ok hstep
    obtain ⟨hour, -, ht'⟩ := exists_of_bind_eq_ok ht'
    obtain ⟨minute, -, ht'⟩ := exists_of_bind_eq_ok ht'
    exact Moment.isLeap_of_ofCarried? (eq_some_of_inRange ht')
  · obtain ⟨d, -, rfl⟩ := exists_of_map_eq_ok hstep
    exact h
  · obtain ⟨t', ht', rfl⟩ := exists_of_map_eq_ok hstep
    obtain ⟨date, hshown⟩ := exists_localTime_of_calendarDate ht'
    show t'.utc.isLeap = false
    rw [← t'.isLeap_localTime, hshown]
    exact LocalTime.isLeap_ofNanos _
  · obtain ⟨t', ht', rfl⟩ := exists_of_map_eq_ok hstep
    obtain ⟨amount, grain, -, hshift⟩ := exists_shift?_of_shifted ht'
    exact Moment.isLeap_of_shift? h hshift
  · obtain ⟨t', ht', rfl⟩ := exists_of_map_eq_ok hstep
    obtain ⟨zone, hzone, -⟩ := exists_of_bind_eq_ok ht'
    -- A zone keeps what the clock shows, to the nanosecond.
    have hshown : t'.localTime = state.1.localTime := ((inZone_eq_ok_iff hzone).mp ht').1.shown
    show t'.utc.isLeap = false
    rw [← t'.isLeap_localTime, hshown]
    exact h

/-- **No result lies in a leap second**, whatever the moment of reference. -/
theorem isLeap_of_parse (h : (⟨catalogRead, mode⟩ : Parser).parse (.at now) text = .ok e) :
    e.time.utc.isLeap = false := by
  obtain ⟨tally, hrun, rfl⟩ := exists_of_map_eq_ok h
  exact Catalog.invariant_of_run (P := fun state => state.1.utc.isLeap = false)
    (isLeap_startOfDay now)
    (fun _ _ _ hmem hleap => isLeap_of_rewrite (Catalog.mem_of_mem_steps hmem).1 hleap) hrun

/-! ## Offsets -/

/-- The rule for zones is the last one, so that its matches are the last steps. -/
theorem exists_last_of_applies (h : catalogRead.Applies mode text "timezone") :
    ∃ before found, catalogRead.steps mode text = before ++ [(timezoneRule, found)] := by
  obtain ⟨⟨rule, found⟩, hmem, hname⟩ := h
  obtain ⟨rule', hrule, hfound⟩ := List.mem_flatMap.mp hmem
  obtain ⟨found', hfound, heq⟩ := List.mem_map.mp hfound
  obtain ⟨rfl, rfl⟩ := Prod.mk.inj heq
  obtain ⟨hrule, hdue⟩ := List.mem_filter.mp hrule
  obtain rfl : rule' = timezoneRule := eq_of_name_eq hrule (mem_rules_iff.mpr (by simp)) hname
  -- The steps of the last rule are the last steps.
  have hrules : catalogRead.rules = catalogRead.rules.take 7 ++ [timezoneRule] := rfl
  have hsteps : catalogRead.steps mode text =
      (⟨catalogRead.rules.take 7⟩ : Catalog).steps mode text ++
        (timezoneRule.matchesIn mode text).map (timezoneRule, ·) := by
    rw [Catalog.steps, hrules, List.filter_append, List.flatMap_append,
      List.filter_cons_of_pos (p := fun rule : Rule => rule.isDue text) hdue]
    exact congrArg _ (List.flatMap_singleton _ _)
  rcases List.eq_nil_or_concat (timezoneRule.matchesIn mode text) with hnone | ⟨ms, m, hms⟩
  · rw [hnone] at hfound
    cases hfound
  · refine ⟨(⟨catalogRead.rules.take 7⟩ : Catalog).steps mode text ++ ms.map (timezoneRule, ·),
      m, ?_⟩
    rw [hsteps, hms, List.concat_eq_append, List.map_append, List.append_assoc]
    rfl

/-- **The offset of a result** is that of the moment of reference, or the one in force in a zone
that the rule for zones has laid on it. -/
theorem offset_of_parse (h : (⟨catalogRead, mode⟩ : Parser).parse (.at now) text = .ok e) :
    e.time.offset = now.offset ∨ catalogRead.Applies mode text "timezone" ∧
      ∃ zone ∈ Zone.all, e.time.offset = zone.offsetAt e.time.utc.seconds := by
  obtain ⟨tally, hrun, rfl⟩ := exists_of_map_eq_ok h
  by_cases happlies : catalogRead.Applies mode text "timezone"
  · refine Or.inr ⟨happlies, ?_⟩
    obtain ⟨before, found, hsteps⟩ := exists_last_of_applies happlies
    rw [Catalog.run_eq_foldlM] at hrun
    obtain ⟨state, hstate, rfl⟩ := exists_of_map_eq_ok hrun
    rw [hsteps, List.foldlM_append] at hstate
    obtain ⟨middle, -, hlast⟩ := exists_of_bind_eq_ok hstate
    obtain ⟨after, hafter, hnil⟩ := exists_of_bind_eq_ok hlast
    cases hnil
    obtain ⟨t, ht, rfl⟩ := exists_of_map_eq_ok hafter
    obtain ⟨zone, hzone, -⟩ := exists_of_bind_eq_ok ht
    exact ⟨zone, ZoneCode.mem_all_of_lookup hzone, ((inZone_eq_ok_iff hzone).mp ht).1.inForce⟩
  · exact Or.inl ((shaped_of_run hrun).offset happlies)

/-! ## Reading back -/

/-- The plain output starts with the line of the time. -/
theorem exists_plain_eq (e : Extraction) :
    ∃ rest, Report.plain e = "time:     " ++ e.time.rfc3339 ++ "\n" ++ rest := by
  rw [Report.plain, Report.lines, List.map_cons, String.join_cons]
  exact ⟨_, rfl⟩

theorem withReference_eq (s : Settings) (value : String) : s.withReference value =
    match Moment.ofRfc3339? value with
    | some moment => .ok { s with reference := some moment }
    | none => .error (.badReference value) := rfl

theorem withReference_eq_ok_iff {s : Settings} {value : String} {m : Moment} :
    s.withReference value = .ok { s with reference := some m } ↔
      Moment.ofRfc3339? value = some m := by
  rw [withReference_eq]
  cases Moment.ofRfc3339? value with
  | none => simp
  | some moment => simp

/-- **The printed time read back.**  Let a text be parsed at a moment that is read at any offset of
less than a day, and let the local year of the result be one from 0 to 9999.  The first line of the
plain output has the timestamp of the result.  Given back as the reference it is accepted, unless
the offset rounds to a whole day, and denotes the moment at which a clock of the rounded offset
shows the local time of the result.  It denotes the result itself, with its instant and its offset,
just if the offset is one of whole minutes.

That of every reference which is read from a timestamp is.  Then the timestamp of the result is
accepted, and its offset is one of whole minutes unless a zone was laid on the time and the result
is before the evening of 12 June 1935. -/
theorem printed_time_read_back (now : Moment) (mode : MatchMode) (text : String)
    (hoffset : -86400 < now.offset ∧ now.offset < 86400) : ∃ c, catalog = .ok c ∧
    (∀ value, Moment.ofRfc3339? value = some now → 60 ∣ now.offset) ∧
    ∀ e, (⟨c, mode⟩ : Parser).parse (.at now) text = .ok e →
      0 ≤ e.time.localTime.date.year ∧ e.time.localTime.date.year ≤ 9999 →
        (∃ rest, Report.plain e = "time:     " ++ e.time.rfc3339 ++ "\n" ++ rest) ∧
        (∀ s : Settings, s.withReference e.time.rfc3339 =
          if e.time.offset.natAbs < 86370 then
            .ok { s with
              reference := some (.ofLocal e.time.localTime (Moment.roundedOffset e.time.offset)) }
          else .error (.badReference e.time.rfc3339)) ∧
        (∀ s : Settings, s.withReference e.time.rfc3339 =
          .ok { s with reference := some e.time } ↔ 60 ∣ e.time.offset) ∧
        (60 ∣ now.offset → e.time.offset.natAbs < 86370 ∧
          (60 ∣ e.time.offset ∨
            c.Applies mode text "timezone" ∧ e.time.utc.seconds < Zone.wholeSince)) := by
  refine ⟨catalogRead, catalog_eq, fun value h => (Moment.offset_of_ofRfc3339? h).1,
    fun e he hyear => ?_⟩
  have hleap := isLeap_of_parse he
  have horigin := offset_of_parse he
  -- The offset is that of the reference, or one from the table of zones.
  have hwithin : -86400 < e.time.offset ∧ e.time.offset < 86400 := by
    rcases horigin with hsame | ⟨-, zone, hzone, hoffset⟩
    · rwa [hsame]
    · rw [hoffset]
      exact Zone.offsetAt_within_day hzone _
  refine ⟨exists_plain_eq e, fun s => ?_, fun s => ?_, fun hwhole => ?_⟩
  · rw [withReference_eq, Moment.ofRfc3339?_rfc3339 hyear hleap hwithin]
    split_ifs <;> rfl
  · rw [withReference_eq_ok_iff]
    exact Moment.ofRfc3339?_rfc3339_eq_self_iff hyear hleap hwithin
  · rcases horigin with hsame | ⟨happlies, zone, hzone, hoffset⟩
    · have hdvd : 60 ∣ e.time.offset := hsame ▸ hwhole
      exact ⟨by omega, Or.inl hdvd⟩
    · have hlt : e.time.offset.natAbs < 57600 := hoffset ▸ Zone.natAbs_offsetAt_lt hzone _
      refine ⟨Nat.lt_trans hlt (by decide), ?_⟩
      by_cases hsince : Zone.wholeSince ≤ e.time.utc.seconds
      · exact Or.inl (hoffset ▸ Zone.dvd_offsetAt hzone hsince)
      · exact Or.inr ⟨happlies, Int.lt_of_not_ge hsince⟩

/-- Three in the afternoon in Los Angeles, the day after the moment of reference, is read back as it
is. -/
theorem printed_time_of_tomorrow : ∃ c e, catalog = .ok c ∧
    (⟨c, .all⟩ : Parser).parse (.at ⟨⟨1360643400, 0⟩, 0⟩) "lunch tomorrow at 3pm PST" = .ok e ∧
    e.time.rfc3339 = "2013-02-13T15:00:00-08:00" ∧
    (∃ rest, Report.plain e = "time:     2013-02-13T15:00:00-08:00\n" ++ rest) ∧
    ∀ s : Settings, s.withReference "2013-02-13T15:00:00-08:00" =
      .ok { s with reference := some e.time } := by
  obtain ⟨c, hc, -, hprinted⟩ := printed_time_read_back ⟨⟨1360643400, 0⟩, 0⟩ .all
    "lunch tomorrow at 3pm PST" (by decide)
  obtain rfl := catalogRead_eq hc
  have he : (⟨catalogRead, .all⟩ : Parser).parse (.at ⟨⟨1360643400, 0⟩, 0⟩)
      "lunch tomorrow at 3pm PST" =
        .ok ⟨⟨⟨1360796400, 0⟩, -28800⟩, ⟨0⟩, "lunch", [⟨6, 14⟩, ⟨15, 21⟩, ⟨15, 25⟩]⟩ := by
    decide +kernel
  have htext : (⟨⟨1360796400, 0⟩, -28800⟩ : Moment).rfc3339 = "2013-02-13T15:00:00-08:00" := by
    decide +kernel
  obtain ⟨⟨rest, hplain⟩, -, hself, -⟩ := hprinted _ he (by decide +kernel)
  refine ⟨catalogRead, _, catalog_eq, he, htext, ⟨rest, ?_⟩, fun s => ?_⟩
  · rw [hplain, htext]
    rfl
  · rw [← htext]
    exact (hself s).mpr (by decide)

/-- In 1800 the clocks of Los Angeles were seven hours, 52 minutes and 58 seconds behind.  Three in
the afternoon there is printed with an offset that is two seconds larger, and read back as an
instant two seconds later. -/
theorem printed_time_of_1800 : ∃ c e m, catalog = .ok c ∧
    Moment.ofRfc3339? "2013-02-12T04:30:00Z" = some ⟨⟨1360643400, 0⟩, 0⟩ ∧
    (⟨c, .all⟩ : Parser).parse (.at ⟨⟨1360643400, 0⟩, 0⟩) "on jan 1, 1800 at 3pm PST" = .ok e ∧
    e.time.localTime.date.year = 1800 ∧
    e.time.rfc3339 = "1800-01-01T15:00:00-07:53" ∧ e.time.offset = -28378 ∧
    (∀ s : Settings, s.withReference "1800-01-01T15:00:00-07:53" =
      .ok { s with reference := some m }) ∧
    m.offset = -28380 ∧ m.utc.seconds = e.time.utc.seconds + 2 := by
  have hread : Moment.ofRfc3339? "1800-01-01T15:00:00-07:53" =
      some ⟨⟨-5364580020, 0⟩, -28380⟩ := by
    decide +kernel
  refine ⟨catalogRead, ⟨⟨⟨-5364580022, 0⟩, -28378⟩, ⟨0⟩, "", [⟨15, 21⟩, ⟨0, 14⟩, ⟨15, 25⟩]⟩,
    ⟨⟨-5364580020, 0⟩, -28380⟩, catalog_eq, ?_, ?_, ?_, ?_, rfl,
    fun s => withReference_eq_ok_iff.mpr hread, rfl, rfl⟩
  · decide +kernel
  · decide +kernel
  · decide +kernel
  · decide +kernel

end English

end Timephrase
