import Timephrase.Proofs.Calendar.Move
import Timephrase.Proofs.Number.Rounding

/-!
# Fractional amounts of a unit

An amount of a unit of fixed length is read as a floating-point number, multiplied with one more
rounding, and cut off to whole nanoseconds.  Where the exact product is a whole number, the result
is that number or one beside it, and the side is known from that of the number that was read.

## Main definitions

* `Duration.Reckons`: how the nanoseconds of an amount are reckoned
* `Duration.Approximates`: how near the result is

## Main results

* `Duration.approximates_of_roundsTo`: both roundings
* `Duration.exists_scaled?`: a scaled length
* `Moment.exists_shift?`: a move by an amount
-/

namespace Timephrase

open Binary64

/-! ## Both roundings -/

/-- How an amount that is read as `v` is reckoned as `n` nanoseconds: some whole units, and the rest
multiplied, rounded and cut off. -/
def Duration.Reckons (v : ℚ) (unit : Duration) (whole n : ℤ) : Prop :=
  ∃ p, RoundsTo ((v - whole) * unit.nanos) p ∧ n = whole * unit.nanos + ⌊p⌋

/-- An amount `q`, read as `v`, that comes to `exact` nanoseconds is reckoned as `reckoned`
nanoseconds: one off at most, not short unless the number that was read is, and not long unless it
is and there are very many of them. -/
structure Duration.Approximates (q v : ℚ) (exact reckoned : ℤ) : Prop where
  near : |reckoned - exact| ≤ 1
  not_short : q ≤ v → exact ≤ reckoned
  not_long : v ≤ q ∨ exact < 2 ^ 52 → reckoned ≤ exact

namespace Duration

variable {q v p : ℚ} {exact reckoned other : ℤ}

namespace Approximates

/-- An amount that is read as what it is comes to the exact number of nanoseconds. -/
theorem eq_exact (h : Approximates q v exact reckoned) (hv : v = q) : reckoned = exact :=
  le_antisymm (h.not_long (Or.inl hv.le)) (h.not_short hv.ge)

/-- Two such reckonings of one amount differ by one at most. -/
theorem abs_sub_le_one (h : Approximates q v exact reckoned) (h' : Approximates q v exact other) :
    |reckoned - other| ≤ 1 := by
  have hnear := abs_le.mp h.near
  have hnear' := abs_le.mp h'.near
  rw [abs_le]
  -- They are off on the same side.
  rcases le_total q v with hside | hside
  · have := h.not_short hside
    have := h'.not_short hside
    omega
  · have := h.not_long (Or.inl hside)
    have := h'.not_long (Or.inl hside)
    omega

end Approximates

variable {u w N : ℕ}

section Whole

variable (hwhole : q * u = N) (hlow : q ≠ 0 → 2 ^ (-1022 : ℤ) ≤ q) (hv : RoundsTo q v)
include hwhole hlow hv

/-- What was read, multiplied, is off by a small part of the nanoseconds. -/
theorem abs_mul_sub_le : |v * u - N| ≤ N / 2 ^ 53 := by
  have herror : |v - q| ≤ q / 2 ^ 53 := by
    by_cases hq : q = 0
    · have hzero : Representable q := hq ▸ ⟨0, 0, by norm_num, by decide, by simp⟩
      rw [hv.eq_of_representable hzero, hq]
      simp
    · exact hv.error (hlow hq)
  rw [← hwhole, ← sub_mul, abs_mul, Nat.abs_cast, mul_div_right_comm]
  gcongr

variable (hN : N < 2 ^ 53)
include hN

theorem abs_mul_sub_lt_one : |v * u - N| < 1 := by
  have hN : (N : ℚ) < 2 ^ 53 := by exact_mod_cast hN
  exact (abs_mul_sub_le hwhole hlow hv).trans_lt ((div_lt_one (by positivity)).mpr hN)

theorem mul_le_of_whole : v * u ≤ 2 ^ 53 := by
  have hless := (abs_lt.mp (abs_mul_sub_lt_one hwhole hlow hv hN)).2
  have hN : (N : ℚ) + 1 ≤ 2 ^ 53 := by exact_mod_cast hN
  linarith

/-- **Both roundings**: some whole units, and what is left of the amount multiplied, rounded and cut
off. -/
theorem approximates_of_roundsTo (hw : w ≤ v) (hp : RoundsTo ((v - w) * u) p) :
    w * u ≤ N ∧ Approximates q v N (w * u + ⌊p⌋) := by
  have hless := abs_mul_sub_lt_one hwhole hlow hv hN
  have hle : w * u ≤ N := by
    have hunits : (w * u : ℚ) ≤ v * u := by gcongr
    have : (w * u : ℚ) < N + 1 := hunits.trans_lt (by linarith [(abs_lt.mp hless).2])
    exact Nat.lt_succ_iff.mp (by exact_mod_cast this)
  obtain ⟨M, rfl⟩ := Nat.exists_eq_add_of_le hle
  -- What is left of the amount is as near to what is left of the nanoseconds.
  have hrest : (v - w) * u - M = v * u - (w * u + M : ℕ) := by
    push_cast
    ring
  have hnonneg : 0 ≤ (v - w) * u := mul_nonneg (sub_nonneg.mpr hw) (Nat.cast_nonneg u)
  refine ⟨hle, ?_, fun hside => ?_, fun hside => ?_⟩
  · have hnear := hp.abs_floor_sub_le_one hnonneg (by omega) (hrest ▸ hless.le)
    have hsame : (w * u + ⌊p⌋ : ℤ) - (w * u + M : ℕ) = ⌊p⌋ - M := by
      push_cast
      ring
    rwa [hsame]
  · have hexact : ((w * u + M : ℕ) : ℚ) ≤ v * u := by
      rw [← hwhole]
      gcongr
    have := hp.natCast_le_floor (m := M) (by omega) (by linarith)
    push_cast
    omega
  · suffices ⌊p⌋ ≤ M by
      push_cast
      omega
    rcases hside with hside | hside
    · have hexact : v * u ≤ ((w * u + M : ℕ) : ℚ) := by
        rw [← hwhole]
        gcongr
      exact hp.floor_le_natCast (by omega) (by linarith)
    -- With so few nanoseconds the error is less than a half.
    · have hside : w * u + M < 2 ^ 52 := by exact_mod_cast hside
      have hsmall : ((w * u + M : ℕ) : ℚ) < 2 ^ 52 := by exact_mod_cast hside
      have hhalf : v * u - (w * u + M : ℕ) ≤ 1 / 2 := by
        refine (le_abs_self _).trans ((abs_mul_sub_le hwhole hlow hv).trans ?_)
        rw [div_le_iff₀ (by positivity)]
        norm_num at hsmall ⊢
        linarith
      exact hp.floor_le_of_le_half (by omega) (by linarith)

end Whole

/-- **A scaled length** is the rounded product, cut off. -/
theorem exists_scaled? {x : Binary64} {unit : Duration} (hunit : unit.nanos = u)
    (hu : u ≤ 2 ^ 53) (hx : x.HasValue v) (hlt : v * u ≤ 2 ^ 53) :
    ∃ p, RoundsTo (v * u) p ∧ 0 ≤ ⌊p⌋ ∧ scaled? x unit = some ⟨⌊p⌋⟩ := by
  obtain ⟨p, hp, hrounds⟩ := exists_mul hx (hasValue_ofInt hu)
    (hlt.trans_lt (zpow_lt_zpow_right₀ one_lt_two (by decide : (53 : ℤ) < 1000)))
  have hnonneg : 0 ≤ ⌊p⌋ := Int.floor_nonneg.mpr hp.nonneg
  have hle : ⌊p⌋ ≤ (2 ^ 53 : ℕ) :=
    hrounds.floor_le_natCast le_rfl (by exact_mod_cast hlt)
  refine ⟨p, hrounds, hnonneg, ?_⟩
  have hword : unit.word? = some (u : ℤ) := by
    rw [word?, if_pos (by omega), hunit]
  have hsize : (⌊p⌋).natAbs < Nat.pow 2 63 := by
    have : Nat.pow 2 63 = 9223372036854775808 := rfl
    omega
  rw [scaled?, hword]
  simp only [Option.bind_eq_bind, Option.bind_some, truncated?_of_hasValue hp, if_pos hsize]

end Duration

/-! ## Units -/

section Amount

variable {grain : Grain} {unit : Duration} {q v : ℚ} {N : ℕ} {x : Binary64}
  (hunit : grain.fixedLength? = some unit)
include hunit

/-- The lengths of the units that have one are whole seconds, a week of them at most. -/
theorem Grain.exists_seconds :
    ∃ s : ℕ, unit.nanos = (s * Duration.perSecond : ℕ) ∧ 0 < s ∧ s ≤ 604800 := by
  cases grain with
  | month | year => cases hunit
  | second => exact ⟨1, by cases hunit; decide⟩
  | minute => exact ⟨60, by cases hunit; decide⟩
  | hour => exact ⟨3600, by cases hunit; decide⟩
  | day => exact ⟨86400, by cases hunit; decide⟩
  | week => exact ⟨604800, by cases hunit; decide⟩

theorem Grain.exists_nanos : ∃ u : ℕ, unit.nanos = u ∧ 0 < u ∧ u ≤ 2 ^ 50 := by
  obtain ⟨s, hs, hpos, hle⟩ := exists_seconds hunit
  refine ⟨s * Duration.perSecond, hs, ?_, ?_⟩
  · simp only [Duration.perSecond]
    omega
  · simp only [Duration.perSecond]
    omega

/-- Days and weeks are moved over whole, and then by what is left of them. -/
theorem Moment.shift?_eq (m : Moment) :
    m.shift? x grain =
      if grain = .day ∨ grain = .week then
        (wholeUnits? x).bind fun count => (m.shiftWhole? count grain).bind fun shifted =>
          (Duration.scaled? x.fraction unit).bind shifted.add?
      else (Duration.scaled? x unit).bind m.add? := by
  cases grain with
  | month | year => cases hunit
  | second | minute | hour | day | week =>
    obtain rfl := Option.some.inj hunit
    rfl

variable (hwhole : q * unit.nanos = N)
include hwhole

/-- An amount that comes to some nanoseconds is not very small, since no unit is longer than a
week. -/
theorem Duration.le_amount (hq : q ≠ 0) : 2 ^ (-1022 : ℤ) ≤ q := by
  obtain ⟨u, hu, hpos, hle⟩ := Grain.exists_nanos hunit
  rw [hu, Int.cast_natCast] at hwhole
  have hpos : (0 : ℚ) < u := by exact_mod_cast hpos
  have hone : 1 ≤ q * u := by
    have hne : N ≠ 0 := by
      rintro rfl
      rw [Nat.cast_zero] at hwhole
      exact hq ((mul_eq_zero_iff_right hpos.ne').mp hwhole)
    rw [hwhole]
    exact_mod_cast Nat.one_le_iff_ne_zero.mpr hne
  have hbound : (u : ℚ) ≤ 2 ^ (50 : ℤ) := by exact_mod_cast hle
  calc (2 : ℚ) ^ (-1022 : ℤ) ≤ 2 ^ (-50 : ℤ) := zpow_le_zpow_right₀ one_le_two (by decide)
    _ = 1 / 2 ^ (50 : ℤ) := by rw [zpow_neg, one_div]
    _ ≤ 1 / u := one_div_le_one_div_of_le hpos hbound
    _ ≤ q := (div_le_iff₀ hpos).mpr hone

variable (hN : N < 2 ^ 53)
include hN

/-- An amount that comes to less than `2 ^ 53` nanoseconds is not very great either. -/
theorem Duration.amount_lt : q < 2 ^ (1000 : ℤ) := by
  obtain ⟨u, hu, hpos, -⟩ := Grain.exists_nanos hunit
  rw [hu, Int.cast_natCast] at hwhole
  have hone : (1 : ℚ) ≤ u := by exact_mod_cast hpos
  have hnonneg : 0 ≤ q := by
    by_contra hneg
    have : q * u < 0 := mul_neg_of_neg_of_pos (not_le.mp hneg) (by linarith)
    rw [hwhole] at this
    exact absurd this (not_lt.mpr (Nat.cast_nonneg N))
  calc q ≤ q * u := le_mul_of_one_le_right hnonneg hone
    _ = N := hwhole
    _ < 2 ^ (53 : ℤ) := by exact_mod_cast hN
    _ < 2 ^ (1000 : ℤ) := zpow_lt_zpow_right₀ one_lt_two (by decide)

variable (hx : x.HasValue v) (hv : RoundsTo q v)
include hx hv

/-- **The length of an amount** is off by one nanosecond at most. -/
theorem Duration.exists_approximates_scaled? :
    ∃ n, Reckons v unit 0 n ∧ Approximates q v N n ∧ scaled? x unit = some ⟨n⟩ := by
  have hlow := le_amount hunit hwhole
  obtain ⟨u, hu, -, hle⟩ := Grain.exists_nanos hunit
  rw [hu, Int.cast_natCast] at hwhole
  obtain ⟨p, hp, -, hscaled⟩ := exists_scaled? hu (hle.trans (by decide)) hx
    (mul_le_of_whole hwhole hlow hv hN)
  have hp : RoundsTo ((v - (0 : ℕ)) * u) p := by
    rwa [Nat.cast_zero, sub_zero]
  obtain ⟨-, happroximates⟩ :=
    approximates_of_roundsTo hwhole hlow hv hN (by simpa using hx.nonneg) hp
  rw [Nat.cast_zero, zero_mul, zero_add] at happroximates
  refine ⟨⌊p⌋, ⟨p, ?_, by rw [zero_mul, zero_add]⟩, happroximates, hscaled⟩
  rw [hu, Int.cast_natCast]
  exact hp

/-- What is left of an amount when its whole units are taken away makes up the length with them. -/
theorem Duration.exists_approximates_fraction :
    ∃ (w : ℕ) (rest : ℤ), ⌊v⌋ = w ∧ w * unit.nanos ≤ N ∧ 0 ≤ rest ∧
      Reckons v unit w (w * unit.nanos + rest) ∧ Approximates q v N (w * unit.nanos + rest) ∧
        scaled? x.fraction unit = some ⟨rest⟩ := by
  have hlow := le_amount hunit hwhole
  obtain ⟨u, hu, -, hle⟩ := Grain.exists_nanos hunit
  rw [hu, Int.cast_natCast] at hwhole
  obtain ⟨w, hw⟩ : ∃ w : ℕ, ⌊v⌋ = w :=
    Int.eq_ofNat_of_zero_le (Int.floor_nonneg.mpr hx.nonneg)
  have hfract : Int.fract v = v - w := by
    rw [Int.fract, hw, Int.cast_natCast]
  have hwv : (w : ℚ) ≤ v := by
    have := Int.floor_le v
    rwa [hw, Int.cast_natCast] at this
  -- What is left is no more than the amount, so that its product is small enough too.
  have hrest : Int.fract v * u ≤ 2 ^ 53 := by
    refine le_trans ?_ (mul_le_of_whole hwhole hlow hv hN)
    rw [hfract]
    gcongr
    exact sub_le_self v (Nat.cast_nonneg w)
  obtain ⟨p, hp, hnonneg, hscaled⟩ :=
    exists_scaled? hu (hle.trans (by decide)) (hasValue_fraction hx) hrest
  rw [hfract] at hp
  obtain ⟨hwu, happroximates⟩ := approximates_of_roundsTo hwhole hlow hv hN hwv hp
  refine ⟨w, ⌊p⌋, hw, ?_, hnonneg, ⟨p, ?_, rfl⟩, ?_, hscaled⟩
  · rw [hu]
    exact_mod_cast hwu
  · rw [hu, Int.cast_natCast, Int.cast_natCast]
    exact hp
  · rw [hu]
    exact happroximates

/-- Days and weeks that are counted whole first, and the rest of them, make up one move. -/
theorem Moment.exists_shift?_counted (hgrain : grain = .day ∨ grain = .week) :
    ∃ n, Duration.Reckons v unit ⌊v⌋ n ∧ Duration.Approximates q v N n ∧
      ∀ m : Moment, m.Supported → m.shift? x grain = m.add? ⟨n⟩ := by
  obtain ⟨w, rest, hw, hle, hrest, hreckons, happroximates, hscaled⟩ :=
    Duration.exists_approximates_fraction hunit hwhole hN hx hv
  -- So few nanoseconds are a hundred days or so.
  have hcount : (w : ℤ) < 2147483647 := by
    have hday : 86400000000000 ≤ unit.nanos := by
      rcases hgrain with rfl | rfl
      · cases hunit
        decide
      · cases hunit
        decide
    have := mul_le_mul_of_nonneg_left hday (Int.natCast_nonneg w)
    omega
  have hunits : wholeUnits? x = some (w : ℤ) := by
    rw [wholeUnits?, truncated?_of_hasValue hx, hw]
    exact if_pos (by omega)
  obtain ⟨s, hs, -, -⟩ := Grain.exists_seconds hunit
  have hseconds : w * unit.nanos = (w * s : ℕ) * Duration.perSecond := by
    rw [hs]
    push_cast
    ring
  have htimes : unit.times? w = some ⟨w * unit.nanos⟩ := by
    refine if_pos ?_
    have hnonneg : 0 ≤ w * unit.nanos := by
      rw [hseconds]
      exact Int.mul_nonneg (Int.natCast_nonneg _) (Int.natCast_nonneg _)
    simp only [Duration.InRange, Duration.limit]
    omega
  have hshift : IsShiftCount w := by
    rw [IsShiftCount]
    omega
  refine ⟨w * unit.nanos + rest, hw ▸ hreckons, happroximates, fun m hm => ?_⟩
  rw [shift?_eq hunit, if_pos hgrain, hunits, Option.bind_some, shiftWhole?_eq hunit,
    if_pos hshift, htimes, Option.bind_some, hscaled]
  exact add?_bind_add? hm hseconds hrest

/-- **A move by an amount** is one by a length that is off by one nanosecond at most, and by the
scaled length itself unless whole days or weeks are counted. -/
theorem Moment.exists_shift? :
    ∃ n, Duration.Reckons v unit (if grain = .day ∨ grain = .week then ⌊v⌋ else 0) n ∧
      Duration.Approximates q v N n ∧
      (¬(grain = .day ∨ grain = .week) → Duration.scaled? x unit = some ⟨n⟩) ∧
        ∀ m : Moment, m.Supported → m.shift? x grain = m.add? ⟨n⟩ := by
  by_cases hgrain : grain = .day ∨ grain = .week
  · obtain ⟨n, hreckons, hn, hshift⟩ := exists_shift?_counted hunit hwhole hN hx hv hgrain
    rw [if_pos hgrain]
    exact ⟨n, hreckons, hn, absurd hgrain, hshift⟩
  · obtain ⟨n, hreckons, hn, hscaled⟩ :=
      Duration.exists_approximates_scaled? hunit hwhole hN hx hv
    rw [if_neg hgrain]
    refine ⟨n, hreckons, hn, fun _ => hscaled, fun m _ => ?_⟩
    rw [shift?_eq hunit, if_neg hgrain, hscaled]
    rfl

end Amount

end Timephrase
