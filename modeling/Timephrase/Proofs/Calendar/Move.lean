import Timephrase.Proofs.Calendar.Range

/-!
# Moves one after the other

A move forward by whole seconds and another one forward come to the same as one move by both lengths
together.  A leap second is left behind once either way, and no move leads into one.  Outside leap
seconds that is so for all moves, forward and back.

## Main results

* `LocalTime.seconds_le_add`: a move forward does not go back
* `LocalTime.add_add_of_isLeap`: two moves outside leap seconds
* `LocalTime.add_add`: two moves forward
* `Moment.add?_of_add?`, `Moment.add?_bind_add?`: two moves that are checked
* `Moment.isLeap_of_shift?`: a move by an amount of a unit does not lead into a leap second
-/

namespace Timephrase

namespace LocalTime

variable {t : LocalTime} {a b d : Duration}

theorem isLeap_ofNanos (n : Int) : (ofNanos n).isLeap = false := by
  refine decide_eq_false ?_
  simp only [ofNanos, Duration.perSecond]
  omega

theorem toNanos_ofNanos (n : Int) : (ofNanos n).toNanos = n := by
  simp only [toNanos, ofNanos, Duration.perSecond]
  omega

theorem add_ofNanos (n : Int) (d : Duration) : (ofNanos n).add d = ofNanos (n + d.nanos) := by
  rw [add, isLeap_ofNanos, if_neg Bool.false_ne_true, toNanos_ofNanos]

/-- Outside leap seconds no move leads into one. -/
theorem isLeap_add (h : t.isLeap = false) (d : Duration) : (t.add d).isLeap = false := by
  rw [add, h, if_neg Bool.false_ne_true]
  exact isLeap_ofNanos _

/-- Outside leap seconds two moves, forward or back, are one by both lengths together. -/
theorem add_add_of_isLeap (h : t.isLeap = false) : (t.add a).add b = t.add ⟨a.nanos + b.nanos⟩ := by
  have hplain : ∀ d, t.add d = ofNanos (t.toNanos + d.nanos) := by
    intro d
    rw [add, h, if_neg Bool.false_ne_true]
  rw [hplain, hplain, add_ofNanos, Int.add_assoc]

/-- No time at all moves nothing, not even in a leap second. -/
theorem add_of_nanos_eq_zero (h : d.nanos = 0) : t.add d = t := by
  have hparts : d.wholeSeconds = 0 ∧ d.subsecond = 0 := by
    rw [Duration.wholeSeconds, Duration.subsecond, h]
    exact ⟨Int.zero_tdiv _, Int.zero_tmod _⟩
  cases hleap : t.isLeap with
  | false =>
    have hnanos : t.nanos < Duration.perSecond := by
      simpa [isLeap] using hleap
    rw [add_whole hnanos (n := 0) (by omega), shiftClock_zero]
  | true =>
    rw [add, if_pos hleap, if_neg (by omega), if_neg (by omega), hparts.2, Int.add_zero,
      Int.toNat_natCast]

/-- A move by a second or more counts on from the number of the second shown. -/
theorem add_of_second_le (h : Duration.perSecond ≤ d.nanos) :
    t.add d =
      ofNanos (t.toNanos - (if t.isLeap then Duration.perSecond else 0) + d.nanos) := by
  have hwhole : 0 < d.wholeSeconds := by
    simp only [Duration.wholeSeconds, Duration.perSecond] at h ⊢
    rw [Int.tdiv_eq_ediv_of_nonneg (by omega)]
    omega
  cases hleap : t.isLeap with
  | false => simp [add, hleap]
  | true => simp [add, hleap, hwhole]

/-- A move forward does not go back. -/
theorem seconds_le_add (h : 0 ≤ d.nanos) : t.seconds ≤ (t.add d).seconds := by
  have hplain : ∀ n, t.seconds * Duration.perSecond ≤ n → t.seconds ≤ (ofNanos n).seconds := by
    intro n hn
    simp only [ofNanos, Duration.perSecond] at hn ⊢
    omega
  rw [add]
  split
  · next hleap =>
    have hnanos : Duration.perSecond ≤ t.nanos := by
      simpa [isLeap] using hleap
    split
    · refine hplain _ ?_
      rw [toNanos]
      omega
    · split
      · refine hplain _ ?_
        rw [toNanos]
        omega
      · exact Int.le_refl _
  · refine hplain _ ?_
    rw [toNanos]
    omega

/-- **Two moves forward**, the first by whole seconds, are one move by both lengths together. -/
theorem add_add {n : Nat} (ha : a.nanos = n * Duration.perSecond) (hb : 0 ≤ b.nanos) :
    (t.add a).add b = t.add ⟨a.nanos + b.nanos⟩ := by
  -- A first move of no length leaves even a leap second to the other one; a longer one ends it.
  cases n with
  | zero =>
    have hzero : a.nanos = 0 := by omega
    rw [add_of_nanos_eq_zero hzero, hzero, Int.zero_add]
  | succ n =>
    have hsecond : Duration.perSecond ≤ a.nanos := by
      rw [ha]
      simp only [Duration.perSecond]
      omega
    rw [add_of_second_le hsecond, add_ofNanos, add_of_second_le, Int.add_assoc]
    dsimp only
    omega

end LocalTime

namespace Moment

variable {m n : Moment} {a b d : Duration} {amount : Binary64} {grain : Grain} {count : Int}

theorem add_of_nanos_eq_zero (hd : d.nanos = 0) : m.add d = m := by
  rw [add, LocalTime.add_of_nanos_eq_zero hd]

/-- A moment that is supported stays where it is when it is moved by no time. -/
theorem add?_zero (h : m.Supported) (hd : d.nanos = 0) : m.add? d = some m :=
  add?_eq_some_iff.mpr ⟨add_of_nanos_eq_zero hd, h⟩

/-- Outside leap seconds a move after another one is a move by both lengths together. -/
theorem add?_of_add? (hm : m.utc.isLeap = false) (h : m.add? a = some n) :
    n.add? b = m.add? ⟨a.nanos + b.nanos⟩ := by
  obtain ⟨rfl, -⟩ := add?_eq_some_iff.mp h
  rw [add?, add?, add, add, add, LocalTime.add_add_of_isLeap hm]

/-- **Two moves forward** of a supported moment, each checked, are one that is checked. -/
theorem add?_bind_add? {n : Nat} (hm : m.Supported) (ha : a.nanos = n * Duration.perSecond)
    (hb : 0 ≤ b.nanos) : (m.add? a).bind (·.add? b) = m.add? ⟨a.nanos + b.nanos⟩ := by
  have hsum : (m.add a).add b = m.add ⟨a.nanos + b.nanos⟩ := by
    rw [add, add, add, LocalTime.add_add ha hb]
  by_cases hbetween : (m.add a).Supported
  · rw [add?, supported?, if_pos hbetween, Option.bind_some, add?, hsum, add?]
  -- The result lies beyond what lies beyond the end.
  · have hbeyond : ¬ (m.add ⟨a.nanos + b.nanos⟩).Supported := by
      intro hsupported
      have hforward : 0 ≤ a.nanos := by
        rw [ha]
        exact Int.mul_nonneg (Int.natCast_nonneg _) (Int.natCast_nonneg _)
      have hfirst := LocalTime.seconds_le_add (t := m.utc) hforward
      have hsecond := LocalTime.seconds_le_add (t := m.utc.add a) hb
      rw [← hsum] at hsupported
      simp only [Supported, LocalTime.supported_iff, add] at hm hbetween hsupported
      omega
    rw [add?, supported?, if_neg hbetween, add?, supported?, if_neg hbeyond]
    rfl

/-! ### Leap seconds -/

theorem isLeap_localTime (m : Moment) : m.localTime.isLeap = m.utc.isLeap := rfl

section

variable (hm : m.utc.isLeap = false)

include hm

theorem isLeap_of_add? (h : m.add? d = some n) : n.utc.isLeap = false := by
  obtain ⟨rfl, -⟩ := add?_eq_some_iff.mp h
  exact LocalTime.isLeap_add hm d

theorem isLeap_of_shiftWhole? (h : m.shiftWhole? count grain = some n) : n.utc.isLeap = false := by
  cases hunit : grain.fixedLength? with
  | some unit =>
    obtain ⟨d, -, h⟩ := exists_add?_of_shiftWhole? hunit h
    exact isLeap_of_add? hm h
  | none =>
    -- Months keep the time of day, and with it the nanoseconds.
    have hmonths : ∀ months, m.addMonths? months = some n → n.utc.isLeap = false := by
      intro months h
      obtain ⟨date, -, h⟩ := Option.bind_eq_some_iff.mp h
      obtain ⟨rfl, -⟩ := ofLocal?_eq_some_iff.mp h
      exact hm
    cases grain with
    | second | minute | hour | day | week => cases hunit
    | month | year => exact hmonths _ h

/-- **A move by an amount of a unit** does not lead into a leap second. -/
theorem isLeap_of_shift? (h : m.shift? amount grain = some n) : n.utc.isLeap = false := by
  cases grain with
  | second | minute | hour =>
    obtain ⟨d, -, h⟩ := Option.bind_eq_some_iff.mp h
    exact isLeap_of_add? hm h
  | day | week =>
    obtain ⟨count, -, h⟩ := Option.bind_eq_some_iff.mp h
    obtain ⟨shifted, hwhole, h⟩ := Option.bind_eq_some_iff.mp h
    obtain ⟨unit, -, h⟩ := Option.bind_eq_some_iff.mp h
    obtain ⟨d, -, h⟩ := Option.bind_eq_some_iff.mp h
    exact isLeap_of_add? (isLeap_of_shiftWhole? hm hwhole) h
  | month | year =>
    simp only [shift?] at h
    split at h
    · obtain ⟨count, -, h⟩ := Option.bind_eq_some_iff.mp h
      exact isLeap_of_shiftWhole? hm h
    · cases h

end

end Moment

end Timephrase
