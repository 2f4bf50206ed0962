import Timephrase.Proofs.Calendar.Range

/-!
# Fields carried into one another

Calendar fields that may be too large for their place come to the midnight of a date and a length of
time after it.  What the clock shows is therefore one sum, whatever is carried.

## Main definitions

* `LocalTime.ofFields`: a date and the fields of the clock, added up
* `Moment.shownAt?`: the moment at which a clock shows a local time, if both are supported

## Main results

* `Moment.localTime_of_ofCarried?`: what the clock shows at a moment of calendar fields
* `Moment.ofCarried?_eq`: what fields that are not too large to add up come to, if anything
* `Moment.ofCarried?_eq_some`: there is a moment of a date and a time of day
-/

namespace Timephrase

namespace Duration

variable {m n : Int}

/-- Seconds that are not too many make a duration. -/
theorem seconds?_eq (hn : 0 ≤ n) (hle : n ≤ 5000000000) :
    seconds? n = some ⟨n * 1000000000⟩ := by
  refine checked?_eq_some_iff.mpr ⟨rfl, ?_⟩
  simp only [InRange, limit]
  omega

theorem add?_eq (hn : 0 ≤ m + n) (hle : m + n ≤ 5000000000 * 1000000000) :
    add? ⟨m⟩ ⟨n⟩ = some ⟨m + n⟩ := by
  refine checked?_eq_some_iff.mpr ⟨rfl, ?_⟩
  simp only [InRange, limit]
  omega

end Duration

namespace LocalTime

/-- The local time some hours, minutes, seconds and nanoseconds after the midnight of a date. -/
def ofFields (date : Date) (hour minute second nanos : Int) : LocalTime :=
  ofNanos ((date.dayNumber * 86400 + hour * 3600 + minute * 60 + second) * Duration.perSecond +
    nanos)

variable {date : Date} {hour minute second nanos : Int}

/-- The midnight of a date moved by a length of time. -/
theorem ofDate_add (d : Duration) :
    (ofDate date).add d = ofNanos (date.dayNumber * 86400 * Duration.perSecond + d.nanos) := by
  -- No midnight is in a leap second, of which nothing has to be kept.
  have hleap : (ofDate date).isLeap = false := rfl
  rw [add, hleap, if_neg Bool.false_ne_true]
  simp [toNanos, ofDate, perDay]

/-- The fields add up to one length of time after the midnight. -/
theorem ofFields_eq_add : ofFields date hour minute second nanos =
    (ofDate date).add
      ⟨(hour * 3600 + minute * 60 + second) * Duration.perSecond + nanos⟩ := by
  rw [ofDate_add, ofFields]
  congr 1
  simp only [Duration.perSecond]
  omega

/-- Up to a second of nanoseconds the other fields add up to whole seconds. -/
theorem ofFields_eq {nanos : Nat} (h : nanos < Duration.perSecond) :
    ofFields date hour minute second nanos =
      ⟨date.dayNumber * 86400 + hour * 3600 + minute * 60 + second, nanos⟩ := by
  simp only [ofFields, ofNanos, Duration.perSecond, mk.injEq] at h ⊢
  omega

/-- Without nanoseconds the fields add up to whole seconds. -/
theorem ofFields_whole : ofFields date hour minute second 0 =
    ⟨date.dayNumber * 86400 + hour * 3600 + minute * 60 + second, 0⟩ :=
  ofFields_eq (Nat.zero_lt_succ _)

/-- A clock shows a full minute: no seconds and no part of one. -/
def OnMinute (t : LocalTime) : Prop := t.second = 0 ∧ t.nanos = 0

instance (t : LocalTime) : Decidable t.OnMinute := inferInstanceAs (Decidable (_ ∧ _))

/-- A clock shows the start of a day. -/
def IsMidnight (t : LocalTime) : Prop := t = ofDate t.date

instance (t : LocalTime) : Decidable t.IsMidnight := inferInstanceAs (Decidable (_ = _))

theorem onMinute_ofFields : (ofFields date hour minute 0 0).OnMinute := by
  rw [ofFields_whole, OnMinute, second, secondOfDay, perDay]
  dsimp only
  omega

theorem isMidnight_ofDate (d : Date) : (ofDate d).IsMidnight := by
  rw [IsMidnight, date_ofDate]

theorem IsMidnight.onMinute {t : LocalTime} (h : t.IsMidnight) : t.OnMinute := by
  rw [h, OnMinute, second, secondOfDay_ofDate]
  exact ⟨rfl, rfl⟩

theorem ofFields_zero : ofFields date 0 0 0 0 = ofDate date := by
  rw [ofFields_whole, ofDate, perDay]
  simp

section Clock

variable {hour minute second nanos : Nat} (hhour : hour < 24) (hminute : minute < 60)
  (hsecond : second < 60) (hnanos : nanos < Duration.perSecond)
include hhour hminute hsecond hnanos

/-- Fields that are not too large for their place carry nothing into the date. -/
theorem date_ofFields : (ofFields date hour minute second nanos).date = date := by
  rw [ofFields_eq hnanos, LocalTime.date, perDay]
  dsimp only
  congr 1
  omega

theorem secondOfDay_ofFields :
    (ofFields date hour minute second nanos).secondOfDay =
      hour * 3600 + minute * 60 + second := by
  rw [ofFields_eq hnanos, secondOfDay, perDay]
  dsimp only
  omega

theorem hour_ofFields : (ofFields date hour minute second nanos).hour = hour := by
  rw [LocalTime.hour, secondOfDay_ofFields hhour hminute hsecond hnanos]
  omega

theorem minute_ofFields : (ofFields date hour minute second nanos).minute = minute := by
  rw [LocalTime.minute, secondOfDay_ofFields hhour hminute hsecond hnanos]
  omega

theorem second_ofFields : (ofFields date hour minute second nanos).second = second := by
  rw [LocalTime.second, secondOfDay_ofFields hhour hminute hsecond hnanos]
  omega

/-- Laying the same hour and minute on a local time again changes nothing. -/
theorem ofFields_again :
    ofFields (ofFields date hour minute second nanos).date hour minute
      (ofFields date hour minute second nanos).second
      (ofFields date hour minute second nanos).nanos = ofFields date hour minute second nanos := by
  have hfraction : (ofFields date hour minute second nanos).nanos = nanos := by
    rw [ofFields_eq hnanos]
  rw [date_ofFields hhour hminute hsecond hnanos, second_ofFields hhour hminute hsecond hnanos,
    hfraction]

end Clock

end LocalTime

namespace Moment

variable {year day hour minute second nanos offset : Int} {month : Nat} {m : Moment}

/-- **A moment of calendar fields** shows the date that the month and the day come to and the sum of
the other fields, at the offset asked for. -/
theorem localTime_of_ofCarried?
    (h : ofCarried? year month day hour minute second nanos offset = some m) :
    m.offset = offset ∧ ∃ date, Date.rolled? year month day = some date ∧
      m.localTime = .ofFields date hour minute second nanos := by
  obtain ⟨date, hdate, h⟩ := Option.bind_eq_some_iff.mp h
  obtain ⟨hours, hhours, h⟩ := Option.bind_eq_some_iff.mp h
  obtain ⟨minutes, hminutes, h⟩ := Option.bind_eq_some_iff.mp h
  obtain ⟨toMinute, htoMinute, h⟩ := Option.bind_eq_some_iff.mp h
  obtain ⟨seconds, hseconds, h⟩ := Option.bind_eq_some_iff.mp h
  obtain ⟨toSecond, htoSecond, h⟩ := Option.bind_eq_some_iff.mp h
  obtain ⟨fraction, hfraction, h⟩ := Option.bind_eq_some_iff.mp h
  obtain ⟨clock, hclock, h⟩ := Option.bind_eq_some_iff.mp h
  obtain ⟨t, ht, h⟩ := Option.bind_eq_some_iff.mp h
  obtain ⟨rfl, -⟩ := ofLocal?_eq_some_iff.mp h
  refine ⟨rfl, date, hdate, ?_⟩
  rw [localTime_ofLocal]
  -- A length of time that is not out of range is what it was computed as, so all of them add up.
  have hnanos : clock.nanos =
      (hour * 3600 + minute * 60 + second) * Duration.perSecond + nanos := by
    rw [Duration.nanos_of_checked? hclock, Duration.nanos_of_checked? htoSecond,
      Duration.nanos_of_checked? htoMinute, Duration.nanos_of_checked? hhours,
      Duration.nanos_of_checked? hminutes, Duration.nanos_of_checked? hseconds,
      Duration.nanos_of_checked? hfraction]
    simp only [Duration.perSecond]
    omega
  rw [LocalTime.add?] at ht
  split at ht
  · obtain rfl := Option.some.inj ht
    rw [LocalTime.ofDate_add, hnanos, LocalTime.ofFields]
    congr 1
    simp only [Duration.perSecond]
    omega
  · cases ht

/-- The moment at which a clock of an offset shows a local time, if both are supported. -/
def shownAt? (t : LocalTime) (offset : Int) : Option Moment :=
  if t.Supported then ofLocal? t offset else none

theorem shownAt?_eq_some_iff {t : LocalTime} :
    shownAt? t offset = some m ↔ m = ofLocal t offset ∧ t.Supported ∧ m.Supported := by
  unfold shownAt?
  split
  · next h =>
    rw [ofLocal?_eq_some_iff]
    constructor
    · rintro ⟨rfl, hm⟩
      exact ⟨rfl, h, hm⟩
    · rintro ⟨rfl, -, hm⟩
      exact ⟨rfl, hm⟩
  · next h =>
    refine iff_of_false nofun ?_
    rintro ⟨-, ht, -⟩
    exact h ht

theorem shownAt?_eq_none_iff {t : LocalTime} :
    shownAt? t offset = none ↔ ¬ (t.Supported ∧ (ofLocal t offset).Supported) := by
  rw [Option.eq_none_iff_forall_ne_some]
  constructor
  · rintro h ⟨ht, hm⟩
    exact h _ (shownAt?_eq_some_iff.mpr ⟨rfl, ht, hm⟩)
  · intro h m heq
    obtain ⟨rfl, ht, hm⟩ := shownAt?_eq_some_iff.mp heq
    exact h ⟨ht, hm⟩

/-- **Fields that are not too large to add up** fail only where the date is not supported, or what
the clock would show, or the moment. -/
theorem ofCarried?_eq (hhour : 0 ≤ hour ∧ hour ≤ 1000000) (hminute : 0 ≤ minute ∧ minute ≤ 1000000)
    (hsecond : 0 ≤ second ∧ second ≤ 1000000) (hnanos : 0 ≤ nanos ∧ nanos ≤ 1000000000) :
    ofCarried? year month day hour minute second nanos offset =
      (Date.rolled? year month day).bind fun date =>
        shownAt? (.ofFields date hour minute second nanos) offset := by
  -- The lengths of time and their sums are far from the limit.
  have hhours : Duration.seconds? (hour * 3600) = _ := Duration.seconds?_eq (by omega) (by omega)
  have hminutes : Duration.seconds? (minute * 60) = _ :=
    Duration.seconds?_eq (by omega) (by omega)
  have htoMinute : Duration.add? ⟨hour * 3600 * 1000000000⟩ ⟨minute * 60 * 1000000000⟩ = _ :=
    Duration.add?_eq (by omega) (by omega)
  have hseconds : Duration.seconds? second = _ := Duration.seconds?_eq (by omega) (by omega)
  have htoSecond : Duration.add? ⟨hour * 3600 * 1000000000 + minute * 60 * 1000000000⟩
      ⟨second * 1000000000⟩ = _ :=
    Duration.add?_eq (by omega) (by omega)
  have hfraction : Duration.checked? nanos = some ⟨nanos⟩ := by
    rw [← Int.zero_add nanos]
    exact Duration.add?_eq (by omega) (by omega)
  have hclock : Duration.add?
      ⟨hour * 3600 * 1000000000 + minute * 60 * 1000000000 + second * 1000000000⟩ ⟨nanos⟩ = _ :=
    Duration.add?_eq (by omega) (by omega)
  unfold ofCarried?
  refine Option.bind_congr fun date _ => ?_
  -- Together they lead from the midnight to what the fields add up to.
  have hmoved : (LocalTime.ofDate date).add
      ⟨hour * 3600 * 1000000000 + minute * 60 * 1000000000 + second * 1000000000 + nanos⟩ =
        .ofFields date hour minute second nanos := by
    rw [LocalTime.ofDate_add, LocalTime.ofFields]
    congr 1
    simp only [Duration.perSecond]
    omega
  simp only [hhours, hminutes, htoMinute, hseconds, htoSecond, hfraction, hclock, LocalTime.add?,
    hmoved, Option.bind_eq_bind, Option.bind_some, shownAt?]
  split <;> rfl

/-- **There is a moment of a date and a time of day**, if the days about the date are supported and
the offset is of less than a day. -/
theorem ofCarried?_eq_some {date : Date} {hour minute : Nat}
    (hdate : Date.rolled? year month day = some date) (hhour : hour < 24) (hminute : minute < 60)
    (hoffset : -86400 < offset ∧ offset < 86400) (hbefore : (date.addDays (-1)).Supported)
    (hafter : (date.addDays 1).Supported) :
    ofCarried? year month day hour minute 0 0 offset =
      some (ofLocal (.ofFields date hour minute 0 0) offset) := by
  have hdate' : (LocalTime.ofFields date hour minute 0 0).date = date :=
    LocalTime.date_ofFields hhour hminute (Nat.zero_lt_succ _) (Nat.zero_lt_succ _)
  -- The date is supported as the days before and after it are.
  have hsupported : (LocalTime.ofFields date hour minute 0 0).Supported := by
    rw [LocalTime.Supported, hdate']
    rw [Date.supported_iff, Date.dayNumber_addDays] at hbefore hafter
    rw [Date.supported_iff]
    omega
  rw [ofCarried?_eq (by omega) (by omega) (by decide) (by decide), hdate, Option.bind_some]
  refine shownAt?_eq_some_iff.mpr ⟨rfl, hsupported, supported_of_shown hoffset ?_ ?_⟩
  · rwa [localTime_ofLocal, hdate']
  · rwa [localTime_ofLocal, hdate']

end Moment

end Timephrase
