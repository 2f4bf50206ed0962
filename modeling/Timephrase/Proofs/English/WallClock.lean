import Timephrase.Proofs.Calendar.Range
import Timephrase.Proofs.English.ZoneCode

/-!
# A zone keeps what the clock shows

A time that is read in a zone is the instant at which the clocks of the zone first show what was
shown before.  Away from the ends of the supported dates there is such an instant, or the clocks
never show that local time, which is then said of it.

## Main results

* `English.supported_of_firstShows`: away from the ends of the calendar that moment is supported
* `English.zone_keeps_clock`: what the rule for zones makes of a time
-/

namespace Timephrase

variable {zone : Zone} {t m : Moment} {shown : LocalTime}

namespace English

/-- Where a local time is a day away from the ends of the calendar, the moments at which the clocks
of a zone show it are supported: clocks are less than a day off. -/
theorem supported_of_firstShows (hzone : zone ∈ Zone.all)
    (hbefore : (shown.date.addDays (-1)).Supported) (hafter : (shown.date.addDays 1).Supported)
    (h : zone.FirstShows shown m) : m.Supported := by
  refine Moment.supported_of_shown ?_ ?_ ?_
  · rw [h.inForce]
    exact Zone.offsetAt_within_day hzone _
  · rw [h.shown]
    exact hbefore
  · rw [h.shown]
    exact hafter

/-- **A zone keeps what the clock shows.**  Let a code name a zone, and let the local time be a day or
more from the ends of the supported dates.  What the rule for zones answers is the moment that has
the same local time, to the nanosecond, and the offset in force in the zone at its own instant, and
no instant before it has these.  The rule answers if there is such an instant at all; if there is
none, it says that the local time does not exist in the zone, and it does not fail otherwise. -/
theorem zone_keeps_clock {code : String} (hcode : ZoneCode.lookup code = .ok zone) :
    ∃ rule meaning, timezone = .ok rule ∧ rule.meaning = .time meaning ∧
      ∀ context t c, c.text "tz" = code →
        (t.localTime.date.addDays (-1)).Supported → (t.localTime.date.addDays 1).Supported →
        (∀ r, meaning context t c = .ok r ↔
          r.localTime = t.localTime ∧ r.offset = zone.offsetAt r.utc.seconds ∧
            ∀ m : Moment, m.localTime = t.localTime → m.offset = zone.offsetAt m.utc.seconds →
              r.utc.seconds ≤ m.utc.seconds) ∧
        ((∃ r, meaning context t c = .ok r) ↔
          ∃ m : Moment, m.localTime = t.localTime ∧ m.offset = zone.offsetAt m.utc.seconds) ∧
        ∀ failure, meaning context t c = .error failure ↔
          failure = .nonexistentLocalTime t.localTime zone.name ∧
            ¬ ∃ m : Moment, m.localTime = t.localTime ∧
              m.offset = zone.offsetAt m.utc.seconds := by
  refine ⟨timezoneRule, _, timezone_eq, rfl, fun context t c hc hbefore hafter => ?_⟩
  have hmem := ZoneCode.mem_all_of_lookup hcode
  have hlookup : ZoneCode.lookup (c.text "tz") = .ok zone := hc.symm ▸ hcode
  have hsupported : ∀ m, zone.FirstShows t.localTime m → m.Supported :=
    fun m => supported_of_firstShows hmem hbefore hafter
  have hshows : (∃ m, zone.Shows t.localTime m) ↔
      ∃ m : Moment, m.localTime = t.localTime ∧ m.offset = zone.offsetAt m.utc.seconds :=
    exists_congr fun m => ⟨fun h => ⟨h.shown, h.inForce⟩, fun h => ⟨h.1, h.2⟩⟩
  -- So far from the ends of the calendar every instant is supported, and the first one is the
  -- answer.
  have hanswers : ∀ r, inZone t c = .ok r ↔ zone.FirstShows t.localTime r := by
    intro r
    rw [inZone_eq_ok_iff hlookup]
    exact ⟨And.left, fun h => ⟨h, hsupported r h⟩⟩
  refine ⟨fun r => ?_, ?_, fun failure => ?_⟩
  · rw [hanswers]
    constructor
    · exact fun h => ⟨h.shown, h.inForce, fun m hm hm' => h.first m ⟨hm, hm'⟩⟩
    · rintro ⟨hr, hr', hfirst⟩
      exact ⟨⟨hr, hr'⟩, fun m hm => hfirst m hm.shown hm.inForce⟩
  · rw [← hshows, exists_congr hanswers]
    constructor
    · rintro ⟨r, hr⟩
      exact ⟨r, hr.toShows⟩
    · rintro ⟨m, hm⟩
      exact Zone.exists_firstShows (Zone.ordered_of_mem_all zone hmem) hm
  · rw [← hshows, inZone_eq_error_iff hlookup]
    refine and_congr_right fun _ => ?_
    constructor
    · rintro (hskips | ⟨m, hm, hlost⟩) ⟨m', hm'⟩
      · exact hskips m' hm'
      · exact hlost (hsupported m hm)
    · exact fun hnone => Or.inl fun m hm => hnone ⟨m, hm⟩

/-- In Los Angeles half past one of 3 November 2024 was shown twice, and half past two of 10 March
2024 was not shown. -/
theorem clock_kept_in_losAngeles : ∃ rule meaning, timezone = .ok rule ∧
    rule.meaning = .time meaning ∧
    meaning halfPastFour ⟨⟨1730597400, 0⟩, 0⟩ (.ofPairs "timezone" [("tz", some "PST")]) =
      .ok ⟨⟨1730622600, 0⟩, -25200⟩ ∧
    (∀ m : Moment, m.localTime = ⟨1730597400, 0⟩ →
      m.offset = Zone.losAngeles.offsetAt m.utc.seconds → 1730622600 ≤ m.utc.seconds) ∧
    meaning halfPastFour ⟨⟨1710037800, 0⟩, 0⟩ (.ofPairs "timezone" [("tz", some "PST")]) =
      .error (.nonexistentLocalTime ⟨1710037800, 0⟩ "America/Los_Angeles") ∧
    ¬ ∃ m : Moment, m.localTime = ⟨1710037800, 0⟩ ∧
      m.offset = Zone.losAngeles.offsetAt m.utc.seconds := by
  have hcode : ZoneCode.lookup "pst" = .ok Zone.losAngeles := by decide +kernel
  obtain ⟨rule, meaning, hrule, hmeaning, h⟩ := zone_keeps_clock hcode
  obtain rfl : timezoneRule = rule := Except.ok.inj (timezone_eq.symm.trans hrule)
  obtain rfl := Meaning.time.inj hmeaning
  obtain ⟨htwice, -, -⟩ := h halfPastFour ⟨⟨1730597400, 0⟩, 0⟩
    (.ofPairs "timezone" [("tz", some "PST")]) (by decide +kernel) (by decide +kernel)
    (by decide +kernel)
  obtain ⟨-, -, hnever⟩ := h halfPastFour ⟨⟨1710037800, 0⟩, 0⟩
    (.ofPairs "timezone" [("tz", some "PST")]) (by decide +kernel) (by decide +kernel)
    (by decide +kernel)
  have hok : inZone ⟨⟨1730597400, 0⟩, 0⟩ (.ofPairs "timezone" [("tz", some "PST")]) =
      .ok ⟨⟨1730622600, 0⟩, -25200⟩ := by decide +kernel
  have herror : inZone ⟨⟨1710037800, 0⟩, 0⟩ (.ofPairs "timezone" [("tz", some "PST")]) =
      .error (.nonexistentLocalTime ⟨1710037800, 0⟩ "America/Los_Angeles") := by decide +kernel
  exact ⟨timezoneRule, _, timezone_eq, rfl, hok, ((htwice _).mp hok).2.2, herror,
    ((hnever _).mp herror).2⟩

end English

end Timephrase
