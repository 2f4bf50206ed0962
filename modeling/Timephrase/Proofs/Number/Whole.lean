import Timephrase.Proofs.Number.Decimal

/-!
# Whole numbers among floating-point numbers

Whether a number has a fraction is asked after it has been rounded.  The answer is still known from
the number itself.  If a whole number is one of the numbers of the format nearest to it, then it is
rounded to a whole number: of two that are equally near, the rounding takes the even multiple of the
unit, and where there are fractions at all the whole numbers are even multiples.

## Main results

* `Binary64.isWhole_round_iff`: when the rounding of a quotient is whole
* `Binary64.exists_roundsTo_natCast`: whole numbers are rounded to whole numbers
* `Decimal.isWhole_nearest_iff`: when the number nearest to a decimal is whole
-/

namespace Timephrase

namespace Binary64

variable {x : Binary64} {q v : ℚ} {k : ℤ} {r : ℕ}

theorem isWhole_of_hasValue (h : x.HasValue v) : x.isWhole = true ↔ ∃ n : ℕ, v = n := by
  obtain ⟨m, e, rfl, -, -, rfl⟩ := h
  have hdvd : (finite false m e).isWhole = true ↔ 2 ^ (-e).toNat ∣ m := by
    rw [isWhole, beq_iff_eq]
    exact Nat.dvd_iff_mod_eq_zero.symm
  rw [hdvd]
  rcases Int.le_total 0 e with he | he
  · -- A number with a great exponent is whole.
    have hnone : (-e).toNat = 0 := by omega
    rw [hnone, pow_zero]
    refine iff_of_true (one_dvd m) ⟨m * 2 ^ e.toNat, ?_⟩
    rw [value_eq_div, hnone]
    simp
  · have hnone : e.toNat = 0 := by omega
    have hpos : (0 : ℚ) < (2 ^ (-e).toNat : ℕ) := by positivity
    rw [value_eq_div, hnone, pow_zero, mul_one]
    constructor
    · rintro ⟨n, rfl⟩
      refine ⟨n, ?_⟩
      rw [div_eq_iff hpos.ne']
      push_cast
      ring
    · rintro ⟨n, hn⟩
      rw [div_eq_iff hpos.ne'] at hn
      exact ⟨n, by rw [mul_comm]; exact_mod_cast hn⟩

/-! ## Small numbers and whole ones -/

/-- A number that is not even half of the least positive one is rounded to zero. -/
theorem roundsTo_zero_of_lt (hq : 0 ≤ q) (hlt : q < 2 ^ (-1100 : ℤ)) : RoundsTo q 0 where
  representable := ⟨0, 0, by norm_num, by decide, by simp⟩
  nearest z hz := by
    obtain ⟨a, b, -, hb, rfl⟩ := hz
    rcases Nat.eq_zero_or_pos a with rfl | ha
    · simp
    · have hleast : 2 * (2 : ℚ) ^ (-1100 : ℤ) ≤ 2 ^ b := by
        rw [← zpow_one_add₀ two_ne_zero]
        refine zpow_le_zpow_right₀ one_le_two ?_
        rw [minExponent] at hb
        omega
      have hone : (2 : ℚ) ^ b ≤ a * 2 ^ b := by
        have : (1 : ℚ) ≤ a := by exact_mod_cast ha
        exact le_mul_of_one_le_left (by positivity) this
      rw [abs_of_nonpos (by linarith), abs_of_nonneg (by linarith)]
      linarith
  error hnormal := by
    have : (2 : ℚ) ^ (-1100 : ℤ) ≤ 2 ^ (-1022 : ℤ) := zpow_le_zpow_right₀ one_le_two (by decide)
    linarith

/-- A multiple of a unit that is no fraction is whole. -/
theorem exists_eq_natCast {u : ℤ} (hu : 0 ≤ u) (r : ℕ) : ∃ n : ℕ, (r * 2 ^ u : ℚ) = n := by
  obtain ⟨j, rfl⟩ := Int.eq_ofNat_of_zero_le hu
  refine ⟨r * 2 ^ j, ?_⟩
  rw [zpow_natCast]
  push_cast
  rfl

/-- **A whole number is rounded to a whole number.** -/
theorem exists_roundsTo_natCast (n : ℕ) : ∃ m : ℕ, RoundsTo n m := by
  rcases Nat.lt_or_ge (2 ^ 53) n with hlt | hle
  · have hpos : 0 < n := by omega
    obtain ⟨k, r, hlow, hhigh, -, hnear, -⟩ := exists_round_near hpos Nat.one_pos
    rw [Nat.cast_one, div_one] at hlow hhigh hnear
    obtain ⟨-, hrounds⟩ := roundsTo_of_near hlow hhigh hnear
    have hk : 53 < k + 1 := by
      refine (zpow_lt_zpow_iff_right₀ (one_lt_two (α := ℚ))).mp (lt_trans ?_ hhigh)
      exact_mod_cast hlt
    have hunit : 0 ≤ unitExponent k := by
      rw [unitExponent]
      omega
    obtain ⟨m, hm⟩ := exists_eq_natCast hunit r
    exact ⟨m, hm ▸ hrounds⟩
  · exact ⟨n, representable_natCast hle, fun z _ => by simp, fun _ => by
      simp only [sub_self, abs_zero]
      positivity⟩

/-! ## Fractions -/

/-- A whole number is an even multiple of a unit that is a fraction. -/
theorem even_of_mul_eq_natCast {u : ℤ} {a n : ℕ} (hu : u < 0) (h : (a * 2 ^ u : ℚ) = n) :
    a % 2 = 0 := by
  obtain ⟨j, hj⟩ := Int.eq_ofNat_of_zero_le (show 0 ≤ -u - 1 by omega)
  have hu : u = -((j + 1 : ℕ) : ℤ) := by omega
  rw [hu, zpow_neg, zpow_natCast, ← div_eq_mul_inv, div_eq_iff (by positivity)] at h
  have ha : a = n * 2 ^ (j + 1) := by exact_mod_cast h
  rw [ha, pow_succ, ← mul_assoc]
  exact Nat.mul_mod_left _ 2

/-- Of two multiples of a unit that are at most half a unit away from a number, the one is next to
the other, and the number lies halfway between them. -/
theorem halfway_of_near {unit : ℚ} {a b : ℕ} (hunit : 0 < unit) (hlt : a < b)
    (ha : |a * unit - q| ≤ unit / 2) (hb : |b * unit - q| ≤ unit / 2) :
    b = a + 1 ∧ q = (a + 1 / 2) * unit := by
  have habove := (abs_le.mp ha).1
  have hbelow := (abs_le.mp hb).2
  have hnext : b = a + 1 := by
    have hle : (b : ℚ) * unit ≤ (a + 1) * unit := by linarith
    have hle : (b : ℚ) ≤ a + 1 := le_of_mul_le_mul_right hle hunit
    have hle : b ≤ a + 1 := by exact_mod_cast hle
    omega
  refine ⟨hnext, ?_⟩
  rw [hnext] at hbelow
  push_cast at hbelow
  linarith

section Near

variable (hlow : (2 : ℚ) ^ k ≤ q) (hhigh : q < 2 ^ (k + 1))
  (hnear : |r * 2 ^ unitExponent k - q| ≤ 2 ^ unitExponent k / 2)

include hlow hhigh hnear

/-- What a number between two powers of two is rounded to is a multiple of its unit. -/
theorem RoundsTo.exists_multiple (h : RoundsTo q v) :
    ∃ a : ℕ, v = a * 2 ^ unitExponent k ∧
      |a * 2 ^ unitExponent k - q| ≤ 2 ^ unitExponent k / 2 := by
  have hr := (roundsTo_of_near hlow hhigh hnear).2.representable
  rcases h.representable.multiple_or_le k with ⟨a, rfl⟩ | ⟨hle, hk⟩
  · exact ⟨a, rfl, (h.nearest _ hr).trans hnear⟩
  -- The power of two is at least as near as what lies below it.
  · have hpower : Representable (2 ^ k) :=
      ⟨2 ^ 52, unitExponent k, by norm_num, le_max_right _ _, hk⟩
    obtain rfl : v = 2 ^ k := le_antisymm hle (h.ge_of_ge hpower hlow)
    exact ⟨2 ^ 52, hk, hk ▸ (h.nearest _ hr).trans hnear⟩

/-- **If a whole number is nearest, so is the even multiple of the unit.** -/
theorem exists_natCast_of_roundsTo {n : ℕ} (h : RoundsTo q n)
    (heven : ∀ s : ℕ, q = (s + 1 / 2) * 2 ^ unitExponent k → r % 2 = 0) :
    ∃ n' : ℕ, (r * 2 ^ unitExponent k : ℚ) = n' := by
  rcases Int.lt_or_le (unitExponent k) 0 with hfraction | hwhole
  · obtain ⟨a, ha, hnear'⟩ := h.exists_multiple hlow hhigh hnear
    have hpos : (0 : ℚ) < 2 ^ unitExponent k := by positivity
    have haeven := even_of_mul_eq_natCast hfraction ha.symm
    -- Either they are the same, or they are neighbours and the number lies halfway between them.
    rcases lt_trichotomy a r with hlt | rfl | hlt
    · obtain ⟨hnext, hhalf⟩ := halfway_of_near hpos hlt hnear' hnear
      have hreven := heven a hhalf
      omega
    · exact ⟨n, ha.symm⟩
    · obtain ⟨hnext, hhalf⟩ := halfway_of_near hpos hlt hnear hnear'
      have hreven := heven r hhalf
      omega
  · exact exists_eq_natCast hwhole r

end Near

/-- **The rounding of a quotient is whole** just if a whole number is one of the nearest numbers of
the format. -/
theorem isWhole_round_iff {num den : ℕ} (hden : 0 < den) (hlt : (num / den : ℚ) < overflow) :
    (round false num den).isWhole = true ↔ ∃ n : ℕ, RoundsTo (num / den) n := by
  rcases Nat.eq_zero_or_pos num with rfl | hnum
  · rw [round, if_pos rfl, isWhole_of_hasValue hasValue_zero, Nat.cast_zero, zero_div]
    exact iff_of_true ⟨0, by simp⟩ ⟨0, by simpa using roundsTo_zero⟩
  · obtain ⟨k, r, hlow, hhigh, hround, hnear, heven⟩ := exists_round_near hnum hden
    obtain ⟨hr, hrounds⟩ := roundsTo_of_near hlow hhigh hnear
    rw [hround, isWhole_of_hasValue (hasValue_ofScaled_of_lt_overflow hlow hlt hr hnear)]
    constructor
    · rintro ⟨n, hn⟩
      exact ⟨n, hn ▸ hrounds⟩
    · rintro ⟨n, hn⟩
      exact exists_natCast_of_roundsTo hlow hhigh hnear hn heven

end Binary64

namespace Decimal

variable {d : Decimal}

/-- **The number nearest to a decimal is whole** just if a whole number is one of the nearest
numbers of the format. -/
theorem isWhole_nearest_iff (hlt : d.value < Binary64.overflow) :
    (d.nearest false).isWhole = true ↔ ∃ n : ℕ, Binary64.RoundsTo d.value n := by
  have hzero : (Binary64.zero false).isWhole = true :=
    (Binary64.isWhole_of_hasValue Binary64.hasValue_zero).mpr ⟨0, by simp⟩
  by_cases hdigits : d.digits = 0
  · rw [nearest, if_pos hdigits, value, hdigits, Nat.cast_zero, zero_mul]
    exact iff_of_true hzero ⟨0, by simpa using Binary64.roundsTo_zero⟩
  -- A decimal that is seen to be infinite is not below the threshold.
  · have hnotInfinite : ¬(0 < d.exponent ∧ 1100 < (d.digits.log2 : ℤ) + 3 * d.exponent) := by
      rintro ⟨hexponent, hsize⟩
      have hpower := (two_zpow_size_le hdigits (by omega)).trans_lt
        (hlt.trans Binary64.overflow_bounds.2.1)
      have := (zpow_lt_zpow_iff_right₀ one_lt_two).mp hpower
      omega
    rw [nearest, if_neg hdigits]
    dsimp only
    rw [if_neg hnotInfinite]
    split
    · next hsize =>
      have hsmall : d.value < 2 ^ (-1100 : ℤ) :=
        (value_lt_two_zpow (by omega)).trans_le (zpow_le_zpow_right₀ one_le_two (by omega))
      have hnonneg : 0 ≤ d.value := by
        rw [value]
        positivity
      exact iff_of_true hzero ⟨0, by simpa using Binary64.roundsTo_zero_of_lt hnonneg hsmall⟩
    · have hden : 0 < 10 ^ (-d.exponent).toNat := by positivity
      rw [value_eq_div] at hlt ⊢
      exact Binary64.isWhole_round_iff hden hlt

end Decimal

end Timephrase
