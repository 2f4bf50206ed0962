import Timephrase.Proofs.Calendar.Move
import Timephrase.Proofs.Calendar.Rollover
import Timephrase.Proofs.English.DateFields
import Timephrase.Proofs.English.UnitWord

/-!
# What a time of day means

A time of day that is written is counted from the midnight of the day that the clock shows.  The
hour may have any two digits and twelve more in the afternoon, and the minute any two, so that the
time may lie on a later day.  What is not written is taken from the clock.

## Main definitions

* `English.IsNumeral`: digits that write a number
* `English.ClockWritten`: the hour, the minute and the half of the day that a match writes
* `English.clockMeant`: the local time some hours and minutes after the midnight of a day

## Main results

* `English.lower_of_readsAt_letters`: letters in any case read as small ones
* `English.exists_clockWritten`: what the pattern for times of day finds
* `English.timeOfDay_again`: a time of day that stays on the day means the same again
* `English.time_phrase_lays_clock`: when a time of day has a meaning, and which
-/

namespace Timephrase.English

open Pattern Pattern.Node

variable {u v w word : List Char} {p : Pattern} {text : String} {m : Match} {c : Captures} {t : Moment}
  {hour : Nat} {minute? : Option Nat} {pm : Bool}

/-! ## Letters -/

/-- **Letters in any case** are the same in small letters, if no other characters fold to them. -/
theorem lower_of_readsAt_letters (hword : ∀ a ∈ word, a.isLower = true ∧ a ≠ 's' ∧ a ≠ 'k')
    (h : (ofItems (word.map letter)).ReadsAt u w v) :
    w.map Char.toLower = word ∧ ∀ before, Lowercase.lowerAfter before w = word := by
  induction word generalizing u w with
  | nil =>
    obtain ⟨gs, h⟩ := h
    obtain ⟨heq, -⟩ := h
    have hrest : [] ++ v = w ++ v := congrArg Cursor.rest heq
    obtain rfl : [] = w := List.append_cancel_right hrest
    exact ⟨rfl, fun before => rfl⟩
  | cons a word ih =>
    obtain ⟨⟨ha, hs, hk⟩, hword⟩ := List.forall_mem_cons.mp hword
    obtain ⟨ch, w, rfl, hch, hrest⟩ := exists_of_readsAt_letter h
    obtain ⟨hlower, hafter⟩ := ih hword hrest
    -- Besides the letter in either case, only the long s and the sign for kelvin are read for one.
    have hascii : (asciiLetterSet a).mem ch = true := by
      rcases mem_letterSet_iff.mp hch with h | ⟨rfl, -⟩ | ⟨rfl, -⟩
      · exact h
      · exact absurd rfl hs
      · exact absurd rfl hk
    have htoLower : ch.toLower = a := toLower_of_mem_asciiLetterSet ha hascii
    have hlong : ch ≠ 'ſ' := by
      rintro rfl
      rw [← htoLower] at ha
      exact absurd ha (by decide)
    refine ⟨?_, fun before => ?_⟩
    · rw [List.map_cons, htoLower, hlower]
    · rw [lowerAfter_of_mem_letterSet ha hch hlong, hafter]

/-! ## What is written -/

/-- A text of digits, of some length, that writes a number. -/
def IsNumeral (written : String) (least most n : Nat) : Prop :=
  (∀ ch ∈ written.toList, ch.isDigit = true) ∧ least ≤ written.length ∧ written.length ≤ most ∧
    Nat.ofDigitChars 10 written.toList 0 = n

/-- What a match of the pattern for times of day writes: an hour of one or two digits, a minute of
two if there is one, and the half of the day in letters of any case if it is written. -/
structure ClockWritten (p : Pattern) (text : String) (m : Match) (hour : Nat)
    (minute? : Option Nat) (pm : Bool) : Prop where
  hour : ∃ written, p.written? text m "hour" = some written ∧
    IsNumeral written 1 2 hour
  minute : (p.written? text m "minute" = none ∧ minute? = none) ∨
    ∃ written n, p.written? text m "minute" = some written ∧
      IsNumeral written 2 2 n ∧ minute? = some n
  half : (p.written? text m "meridiem" = none ∧ pm = false) ∨
    ∃ written, p.written? text m "meridiem" = some written ∧
      written.toLower = (if pm then "pm" else "am")

theorem IsNumeral.lt {written : String} {least most n : Nat} (h : IsNumeral written least most n) :
    n < 10 ^ most := by
  obtain ⟨hdigits, -, hmost, rfl⟩ := h
  rw [← String.length_toList] at hmost
  exact IntegerRange.ofDigitChars_lt_pow hdigits hmost

namespace ClockWritten

variable (h : ClockWritten p text m hour minute? pm)
include h

theorem hour_lt : hour < 100 := by
  obtain ⟨written, -, hnumeral⟩ := h.hour
  exact hnumeral.lt

theorem minute_lt : ∀ n ∈ minute?, n < 100 := by
  rcases h.minute with ⟨-, rfl⟩ | ⟨written, n, -, hnumeral, rfl⟩
  · nofun
  · rintro _ ⟨⟩
    exact hnumeral.lt

end ClockWritten

/-- Captures of a time of day from which an hour, maybe a minute and the half of the day are read. -/
structure ReadsClock (c : Captures) (hour : Nat) (minute? : Option Nat) (pm : Bool) : Prop where
  hour : c.require IntegerRange.signed64.read "hour" = .ok (hour : Int)
  minute : c.read? IntegerRange.signed64.read "minute" = .ok (minute?.map Nat.cast)
  half : c.get? "meridiem" = some "pm" ↔ pm = true

/-- Captures are read in one way only. -/
theorem ReadsClock.unique {hour' : Nat} {minute?' : Option Nat} {pm' : Bool}
    (h : ReadsClock c hour minute? pm) (h' : ReadsClock c hour' minute?' pm') :
    hour = hour' ∧ minute? = minute?' ∧ pm = pm' := by
  refine ⟨?_, ?_, Bool.eq_iff_iff.mpr (h.half.symm.trans h'.half)⟩
  · exact Int.ofNat_inj.mp (Except.ok.inj (h.hour.symm.trans h'.hour))
  · have hsame : minute?.map (Nat.cast : Nat → Int) = minute?'.map Nat.cast :=
      Except.ok.inj (h.minute.symm.trans h'.minute)
    exact Option.map_injective (fun _ _ => Int.ofNat_inj.mp) hsame

section Found

/-- A group of one or two digits that took part in a match is a numeral, and is read as one. -/
theorem exists_numeral_of_group? {group : String} {index : Nat} {s : Span} (least : Nat)
    (h : m ∈ atTimeRule.pattern.findAll text)
    (hname : atTimeRule.pattern.names.lookup group = some index)
    (hbody : atTimeRule.pattern.node.bodies index = [.run digitSet least (some 2) true])
    (hleast : 0 < least ∧ least ≤ 2) (hs : m.group? index = some s) :
    ∃ written n, atTimeRule.pattern.written? text m group = some written ∧
      IsNumeral written least 2 n ∧
      (Captures.ofMatch "at time" atTimeRule.pattern text m).read? IntegerRange.signed64.read group =
        .ok (some (n : Int)) := by
  obtain ⟨w, hwritten, hdigits, hlow, hhigh, -, hread⟩ :=
    exists_digits_of_group? "at time" h hname hbody rfl hleast hs
  refine ⟨_, _, hwritten, ⟨?_, ?_, ?_, rfl⟩, ?_⟩
  · rwa [String.toList_ofList]
  · rwa [String.length_ofList]
  · rwa [String.length_ofList]
  · rw [String.toList_ofList]
    exact hread _ (by decide) (by decide)

/-- The half of the day that is read, in letters of any case. -/
theorem exists_half_of_readsAt
    (h : (ofBranches [ofItems (letters "am"), ofItems (letters "pm")]).ReadsAt u w v) :
    ∃ pm : Bool, w.map Char.toLower = (if pm then ['p', 'm'] else ['a', 'm']) ∧
      Lowercase.lowerAfter [] w = (if pm then ['p', 'm'] else ['a', 'm']) := by
  have ham : ∀ a ∈ ['a', 'm'], a.isLower = true ∧ a ≠ 's' ∧ a ≠ 'k' :=
    List.forall_mem_cons.mpr ⟨by decide, List.forall_mem_singleton.mpr (by decide)⟩
  have hpm : ∀ a ∈ ['p', 'm'], a.isLower = true ∧ a ≠ 's' ∧ a ≠ 'k' :=
    List.forall_mem_cons.mpr ⟨by decide, List.forall_mem_singleton.mpr (by decide)⟩
  obtain ⟨node, hnode, hread⟩ := readsAt_ofBranches.mp h
  rcases List.mem_cons.mp hnode with rfl | hnode
  · obtain ⟨hlower, hafter⟩ := lower_of_readsAt_letters ham hread
    exact ⟨false, hlower, hafter []⟩
  · obtain rfl := List.mem_singleton.mp hnode
    obtain ⟨hlower, hafter⟩ := lower_of_readsAt_letters hpm hread
    exact ⟨true, hlower, hafter []⟩

variable (h : m ∈ atTimeRule.pattern.findAll text)
include h

/-- The hour that is found. -/
theorem exists_hour_of_atTime : ∃ written hour,
    atTimeRule.pattern.written? text m "hour" = some written ∧ IsNumeral written 1 2 hour ∧
      (Captures.ofMatch "at time" atTimeRule.pattern text m).require IntegerRange.signed64.read
        "hour" = .ok (hour : Int) := by
  obtain ⟨s, hs⟩ := Captures.exists_group?_of_records h
    (show atTimeRule.pattern.node.records 1 = true from rfl)
  obtain ⟨written, hour, hwritten, hnumeral, hread⟩ :=
    exists_numeral_of_group? 1 h (show atTimeRule.pattern.names.lookup "hour" = some 1 from rfl) rfl
      (by decide) hs
  exact ⟨written, hour, hwritten, hnumeral, Captures.require_of_read? hread⟩

/-- The minute that is found, if there is one. -/
theorem exists_minute_of_atTime : ∃ minute? : Option Nat,
    ((atTimeRule.pattern.written? text m "minute" = none ∧ minute? = none) ∨
      ∃ written n, atTimeRule.pattern.written? text m "minute" = some written ∧
        IsNumeral written 2 2 n ∧ minute? = some n) ∧
    (Captures.ofMatch "at time" atTimeRule.pattern text m).read? IntegerRange.signed64.read
      "minute" = .ok (minute?.map Nat.cast) := by
  have hname : atTimeRule.pattern.names.lookup "minute" = some 2 := rfl
  cases hs : m.group? 2 with
  | none =>
    have hwritten : atTimeRule.pattern.written? text m "minute" = none :=
      Captures.written?_eq_none hname hs
    refine ⟨none, Or.inl ⟨hwritten, rfl⟩, Captures.read?_of_get?_eq_none ?_⟩
    rw [Captures.get?_eq_written? hname, hwritten]
    rfl
  | some s =>
    obtain ⟨written, n, hwritten, hnumeral, hread⟩ :=
      exists_numeral_of_group? 2 h hname rfl (by decide) hs
    exact ⟨some n, Or.inr ⟨written, n, hwritten, hnumeral, rfl⟩, hread⟩

/-- The half of the day that is found. -/
theorem exists_half_of_atTime : ∃ pm : Bool,
    ((atTimeRule.pattern.written? text m "meridiem" = none ∧ pm = false) ∨
      ∃ written, atTimeRule.pattern.written? text m "meridiem" = some written ∧
        written.toLower = (if pm then "pm" else "am")) ∧
    ((Captures.ofMatch "at time" atTimeRule.pattern text m).get? "meridiem" = some "pm" ↔
      pm = true) := by
  have hname : atTimeRule.pattern.names.lookup "meridiem" = some 3 := rfl
  have hget : (Captures.ofMatch "at time" atTimeRule.pattern text m).get? "meridiem" =
      (atTimeRule.pattern.written? text m "meridiem").map Lowercase.lowercase :=
    Captures.get?_eq_written? hname
  -- Where a half of the day is written it is one of two words, and else it is the first half.
  cases hs : m.group? 3 with
  | none =>
    have hwritten : atTimeRule.pattern.written? text m "meridiem" = none :=
      Captures.written?_eq_none hname hs
    refine ⟨false, Or.inl ⟨hwritten, rfl⟩, ?_⟩
    rw [hget, hwritten]
    exact ⟨nofun, nofun⟩
  | some s =>
    obtain ⟨u, w, v, ht, hread, rfl⟩ := Captures.exists_after_of_group? h
      (show atTimeRule.pattern.node.bodies 3 =
        [ofBranches [ofItems (letters "am"), ofItems (letters "pm")]] from rfl) hs
    have hwritten := Captures.written?_of_after hname hs ht
    obtain ⟨pm, hlower, hafter⟩ := exists_half_of_readsAt hread
    refine ⟨pm, Or.inr ⟨_, hwritten, ?_⟩, ?_⟩
    · rw [← String.toList_inj, String.toLower, String.toList_map, String.toList_ofList, hlower]
      cases pm <;> rfl
    · rw [hget, hwritten, Option.map_some, Lowercase.lowercase, String.toList_ofList, hafter]
      cases pm <;> decide

/-- **What the pattern for times of day finds** is written so, and read so. -/
theorem exists_clockWritten : ∃ hour minute? pm,
    ClockWritten atTimeRule.pattern text m hour minute? pm ∧
      ReadsClock (.ofMatch "at time" atTimeRule.pattern text m) hour minute? pm := by
  obtain ⟨written, hour, hwritten, hnumeral, hhour⟩ := exists_hour_of_atTime h
  obtain ⟨minute?, hminute, hread⟩ := exists_minute_of_atTime h
  obtain ⟨pm, hhalf, hpm⟩ := exists_half_of_atTime h
  exact ⟨hour, minute?, pm, ⟨⟨written, hwritten, hnumeral⟩, hminute, hhalf⟩, ⟨hhour, hread, hpm⟩⟩

end Found

/-! ## What is meant -/

/-- The local time some hours and minutes after the midnight of the day that a clock shows, its
seconds kept. -/
def clockMeant (t : LocalTime) (hour minute : Nat) : LocalTime :=
  (LocalTime.ofDate t.date).add
    ⟨((hour : Int) * 3600 + (minute : Int) * 60 + t.second) * Duration.perSecond + t.nanos⟩

theorem clockMeant_eq (t : LocalTime) (hour minute : Nat) :
    clockMeant t hour minute = .ofFields t.date hour minute t.second t.nanos :=
  LocalTime.ofFields_eq_add.symm

theorem isLeap_clockMeant (t : LocalTime) (hour minute : Nat) :
    (clockMeant t hour minute).isLeap = false :=
  LocalTime.isLeap_add rfl _

section Day

variable {shown : LocalTime} {minute : Nat} (hleap : shown.isLeap = false) (hhour : hour < 24)
  (hminute : minute < 60)
include hleap hhour hminute

/-- An hour and a minute of a day stay on it. -/
theorem date_clockMeant : (clockMeant shown hour minute).date = shown.date := by
  rw [clockMeant_eq]
  exact LocalTime.date_ofFields hhour hminute shown.second_lt (LocalTime.nanos_lt hleap)

theorem minute_clockMeant : (clockMeant shown hour minute).minute = minute := by
  rw [clockMeant_eq]
  exact LocalTime.minute_ofFields hhour hminute shown.second_lt (LocalTime.nanos_lt hleap)

/-- The hour and the minute that a clock shows mean the same again. -/
theorem clockMeant_again :
    clockMeant (clockMeant shown hour minute) hour minute = clockMeant shown hour minute := by
  rw [clockMeant_eq shown, clockMeant_eq]
  exact LocalTime.ofFields_again hhour hminute shown.second_lt (LocalTime.nanos_lt hleap)

end Day

section Meaning

variable (hleap : t.localTime.isLeap = false) (hshown : t.localTime.Supported)
  (h : ReadsClock c hour minute? pm) (hhour : hour < 100) (hminute : ∀ n ∈ minute?, n < 100)
include hleap hshown h hhour hminute

/-- **A time of day comes to the hours and minutes after midnight**, if that is in range. -/
theorem timeOfDay_of_readsClock : timeOfDay t c =
    inRange c (Moment.shownAt? (clockMeant t.localTime (if pm then hour + 12 else hour)
      (minute?.getD t.localTime.minute)) t.offset) := by
  have hpm : (if c.get? "meridiem" = some "pm" then (hour : Int) + 12 else hour) =
      ((if pm then hour + 12 else hour : Nat) : Int) := by
    cases pm with
    | false => rw [if_neg (mt h.half.mp Bool.false_ne_true), if_neg Bool.false_ne_true]
    | true =>
      rw [if_pos (h.half.mpr rfl), if_pos rfl]
      rfl
  have hwritten : (minute?.map (Nat.cast : Nat → Int)).getD t.localTime.minute =
      (minute?.getD t.localTime.minute : Nat) := by
    cases minute? <;> rfl
  -- Two digits at most keep both numbers far below what can be carried into days.
  have hmost : minute?.getD t.localTime.minute < 100 := by
    cases minute? with
    | none => exact Nat.lt_trans t.localTime.minute_lt (by decide)
    | some n => exact hminute n rfl
  have hhour' : (if pm then hour + 12 else hour) ≤ 111 := by
    split <;> omega
  rw [timeOfDay, h.hour, h.minute]
  refine congrArg (inRange c) ?_
  rw [hpm, hwritten, clockMeant_eq]
  exact Moment.ofCarried?_date hleap hshown (by omega) (by omega)

variable {hour' minute' : Nat} {t' : Moment} (hhour' : hour' = if pm then hour + 12 else hour)
  (hminute' : minute' = minute?.getD t.localTime.minute)
include hhour' hminute'

theorem timeOfDay_eq_ok_iff : timeOfDay t c = .ok t' ↔
    t' = .ofLocal (clockMeant t.localTime hour' minute') t.offset ∧
      (clockMeant t.localTime hour' minute').Supported ∧ t'.Supported := by
  rw [timeOfDay_of_readsClock hleap hshown h hhour hminute, ← hhour', ← hminute',
    inRange_eq_ok_iff, Moment.shownAt?_eq_some_iff]

theorem timeOfDay_eq_error_iff {failure : Failure} : timeOfDay t c = .error failure ↔
    failure = .outOfRange c.rule ∧
      ¬ ((clockMeant t.localTime hour' minute').Supported ∧
        (Moment.ofLocal (clockMeant t.localTime hour' minute') t.offset).Supported) := by
  rw [timeOfDay_of_readsClock hleap hshown h hhour hminute, ← hhour', ← hminute',
    inRange_eq_error_iff, Moment.shownAt?_eq_none_iff]

/-- **A time of day that stays on the day means the same again** at the time that it means. -/
theorem timeOfDay_again (hday : hour' < 24) (hsixty : minute' < 60) (ht' : timeOfDay t c = .ok t') :
    timeOfDay t' c = .ok t' := by
  obtain ⟨rfl, hmeant, hsupported⟩ :=
    (timeOfDay_eq_ok_iff hleap hshown h hhour hminute hhour' hminute').mp ht'
  have hlocal := Moment.localTime_ofLocal (clockMeant t.localTime hour' minute') t.offset
  -- The minute shown is the one that was written, or the one that was shown before.
  have hkept : minute' = minute?.getD (clockMeant t.localTime hour' minute').minute := by
    cases minute? with
    | none => exact (minute_clockMeant hleap hday hsixty).symm
    | some n => exact hminute'
  rw [← hlocal] at hkept
  refine (timeOfDay_eq_ok_iff ?_ ?_ h hhour hminute hhour' hkept).mpr ?_
  · rw [hlocal]
    exact isLeap_clockMeant _ _ _
  · rwa [hlocal]
  · rw [hlocal, clockMeant_again hleap hday hsixty]
    exact ⟨rfl, hmeant, hsupported⟩

end Meaning

/-- **What a time of day means.**  Whatever the pattern for times of day finds writes an hour of one
or two digits, maybe a minute of two and maybe a half of the day, and is read so.  Let the clock show
a supported local time outside leap seconds.

Count the hour, twelve more in the afternoon, and the minute from the midnight of the day that the
clock shows, with the seconds that it shows, and its minute if none is written.  The time of day has
a meaning just if the local time that this comes to is supported and so is the moment at which the
clock, of the same offset, shows it; then it means this moment.  Otherwise it is out of range, which
is the only way in which it fails.

An hour of at most 23 and a minute of at most 59 stay on the day, and mean the same once they are
shown. -/
theorem time_phrase_lays_clock : ∃ rule f, atTime = .ok rule ∧ rule.meaning = .time f ∧
    ∀ text, ∀ m ∈ rule.pattern.findAll text, ∃ hour minute? pm,
      ClockWritten rule.pattern text m hour minute? pm ∧
      ReadsClock (.ofMatch rule.name rule.pattern text m) hour minute? pm ∧
      ∀ context t hour' minute', t.localTime.isLeap = false → t.localTime.Supported →
        hour' = (if pm then hour + 12 else hour) → minute' = minute?.getD t.localTime.minute →
        (∀ t', f context t (.ofMatch rule.name rule.pattern text m) = .ok t' ↔
          t' = .ofLocal (clockMeant t.localTime hour' minute') t.offset ∧
            (clockMeant t.localTime hour' minute').Supported ∧ t'.Supported) ∧
        (∀ failure, f context t (.ofMatch rule.name rule.pattern text m) = .error failure ↔
          failure = .outOfRange "at time" ∧
            ¬ ((clockMeant t.localTime hour' minute').Supported ∧
              (Moment.ofLocal (clockMeant t.localTime hour' minute') t.offset).Supported)) ∧
        (∀ t', f context t (.ofMatch rule.name rule.pattern text m) = .ok t' →
          t'.offset = t.offset ∧ t'.localTime = clockMeant t.localTime hour' minute') ∧
        (hour' ≤ 23 → minute' ≤ 59 →
          (clockMeant t.localTime hour' minute').date = t.localTime.date ∧
          ∀ t', f context t (.ofMatch rule.name rule.pattern text m) = .ok t' →
            ∀ context', f context' t' (.ofMatch rule.name rule.pattern text m) = .ok t') := by
  refine ⟨atTimeRule, _, atTime_eq, rfl, fun text m hm => ?_⟩
  obtain ⟨hour, minute?, pm, hwritten, hreads⟩ := exists_clockWritten hm
  refine ⟨hour, minute?, pm, hwritten, hreads, ?_⟩
  intro context t hour' minute' hleap hshown hhour' hminute'
  have hhour := hwritten.hour_lt
  have hminute := hwritten.minute_lt
  have hok : ∀ t', timeOfDay t (.ofMatch "at time" atTimeRule.pattern text m) = .ok t' ↔ _ :=
    fun t' => timeOfDay_eq_ok_iff hleap hshown hreads hhour hminute hhour' hminute'
  refine ⟨hok, fun failure => ?_, fun t' ht' => ?_, fun hday hsixty => ?_⟩
  · exact timeOfDay_eq_error_iff hleap hshown hreads hhour hminute hhour' hminute'
  · obtain ⟨rfl, -, -⟩ := (hok t').mp ht'
    exact ⟨rfl, Moment.localTime_ofLocal _ _⟩
  · rw [← Nat.lt_succ_iff] at hday hsixty
    refine ⟨date_clockMeant hleap hday hsixty, fun t' ht' context' => ?_⟩
    exact timeOfDay_again hleap hshown hreads hhour hminute hhour' hminute' hday hsixty ht'

/-- On the last day of 1999 the 75th minute after eleven at night is a quarter past midnight of the
new year, the five seconds shown being kept.  99 o'clock on the last day of the calendar is out of
range. -/
theorem time_phrase_after_midnight : ∃ rule f m m', atTime = .ok rule ∧ rule.meaning = .time f ∧
    m ∈ rule.pattern.findAll "at 11:75 Pm" ∧ m' ∈ rule.pattern.findAll "at 99" ∧
    f halfPastFour ⟨⟨946680605, 0⟩, 3600⟩ (.ofMatch rule.name rule.pattern "at 11:75 Pm" m) =
      .ok ⟨⟨946682105, 0⟩, 3600⟩ ∧
    (Moment.localTime ⟨⟨946682105, 0⟩, 3600⟩).text = "2000-01-01 00:15:05" ∧
    f halfPastFour ⟨⟨8210266876799, 0⟩, 0⟩ (.ofMatch rule.name rule.pattern "at 99" m') =
      .error (.outOfRange "at time") := by
  obtain ⟨rule, f, hrule, hf, hfound⟩ := time_phrase_lays_clock
  obtain rfl : atTimeRule = rule := Except.ok.inj (atTime_eq.symm.trans hrule)
  have hm : ⟨⟨0, 11⟩, [(3, ⟨9, 11⟩), (2, ⟨6, 8⟩), (1, ⟨3, 5⟩)]⟩ ∈
      atTimeRule.pattern.findAll "at 11:75 Pm" := by
    decide +kernel
  have hm' : ⟨⟨0, 5⟩, [(1, ⟨3, 5⟩)]⟩ ∈ atTimeRule.pattern.findAll "at 99" := by
    decide +kernel
  obtain ⟨hour, minute?, pm, -, hreads, hmeaning⟩ := hfound _ _ hm
  obtain ⟨hour', minute?', pm', -, hreads', hmeaning'⟩ := hfound _ _ hm'
  obtain ⟨rfl, rfl, rfl⟩ : hour = 11 ∧ minute? = some 75 ∧ pm = true :=
    hreads.unique ⟨by decide +kernel, by decide +kernel, by decide +kernel⟩
  obtain ⟨rfl, rfl, rfl⟩ : hour' = 99 ∧ minute?' = none ∧ pm' = false :=
    hreads'.unique ⟨by decide +kernel, by decide +kernel, by decide +kernel⟩
  have hnewYear := hmeaning halfPastFour ⟨⟨946680605, 0⟩, 3600⟩ 23 75 (by decide) (by decide) rfl rfl
  have hlastDay := hmeaning' halfPastFour ⟨⟨8210266876799, 0⟩, 0⟩ 99 59 (by decide) (by decide) rfl
    rfl
  refine ⟨atTimeRule, f, _, _, hrule, hf, hm, hm', ?_, by decide +kernel, ?_⟩
  · exact (hnewYear.1 _).mpr ⟨by decide, by decide, by decide⟩
  · exact (hlastDay.2.1 _).mpr ⟨rfl, by decide⟩

end Timephrase.English
