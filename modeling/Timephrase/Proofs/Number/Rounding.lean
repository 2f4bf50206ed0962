import Mathlib.Algebra.Order.Field.Power
import Mathlib.Data.Rat.Floor
import Mathlib.Tactic.FieldSimp
import Mathlib.Tactic.Linarith
import Mathlib.Tactic.NormNum
import Mathlib.Tactic.Positivity
import Mathlib.Tactic.Ring
import Timephrase.Number.Binary64

/-!
# What rounding does to a number

The floating-point numbers that are not negative, by their values.  Rounding never passes a number of
the format, and is off by at most half a unit in the last place.  The arithmetic of the format is
exact arithmetic and one rounding.

## Main definitions

* `Binary64.Representable`: the values of finite numbers, as if there were no greatest one
* `Binary64.HasValue`: the value of a finite number
* `Binary64.RoundsTo`: a number is rounded to another one
* `Binary64.overflow`: the number below which the rounding is finite

## Main results

* `Binary64.exists_round_near`, `Binary64.exists_round`: what the rounding of a quotient does
* `Binary64.exists_mul`, `Binary64.hasValue_ofInt`, `Binary64.truncated?_of_hasValue`,
  `Binary64.hasValue_fraction`: the operations
-/

namespace Timephrase.Binary64

/-! ## Whole numbers -/

section Whole

variable {num den : ℕ}

/-- The nearest whole number is at most a half away. -/
theorem roundHalfEven_near (hden : 0 < den) :
    2 * num ≤ (2 * roundHalfEven num den + 1) * den ∧
      2 * roundHalfEven num den * den ≤ 2 * num + den := by
  have hparts : den * (num / den) + num % den = num := Nat.div_add_mod num den
  have hrest : num % den < den := Nat.mod_lt num hden
  rw [roundHalfEven]
  generalize num / den = q at hparts
  generalize num % den = r at hparts hrest
  subst hparts
  split
  · constructor <;> nlinarith
  · split
    · constructor <;> nlinarith
    · -- A tie: the quotient, or the one after it.
      have hparity : q % 2 = 0 ∨ q % 2 = 1 := by omega
      rcases hparity with h | h
      · rw [h]
        constructor <;> nlinarith
      · rw [h]
        constructor <;> nlinarith

/-- Halfway between two whole numbers it is the even one. -/
theorem roundHalfEven_even_of_tie {s : ℕ} (hden : 0 < den) (htie : 2 * num = (2 * s + 1) * den) :
    roundHalfEven num den % 2 = 0 := by
  have hparts : den * (num / den) + num % den = num := Nat.div_add_mod num den
  have hrest : num % den < den := Nat.mod_lt num hden
  rw [roundHalfEven]
  generalize num / den = q at hparts
  generalize num % den = r at hparts hrest
  -- The lower of the two whole numbers is the quotient, and half of the denominator is left.
  have hq : q = s := by
    rcases lt_trichotomy q s with hlt | rfl | hlt
    · obtain ⟨k, rfl⟩ := Nat.exists_eq_add_of_lt hlt
      nlinarith
    · rfl
    · obtain ⟨k, rfl⟩ := Nat.exists_eq_add_of_lt hlt
      nlinarith
  have hr : 2 * r = den := by
    subst hq
    nlinarith
  rw [if_neg (by omega), if_neg (by omega)]
  omega

end Whole

/-! ## Powers of two -/

/-- A power with a signed exponent as a quotient of whole powers. -/
theorem zpow_mul_pow {b : ℚ} (hb : b ≠ 0) (e : ℤ) : b ^ e * b ^ (-e).toNat = b ^ e.toNat := by
  rcases Int.le_total 0 e with h | h
  · obtain ⟨n, rfl⟩ := Int.eq_ofNat_of_zero_le h
    have hneg : (-(n : ℤ)).toNat = 0 := by omega
    rw [hneg, pow_zero, mul_one, zpow_natCast]
    rfl
  · obtain ⟨n, hn⟩ := Int.eq_ofNat_of_zero_le (Int.neg_nonneg.mpr h)
    have he : e = -(n : ℤ) := by omega
    have hpos : e.toNat = 0 := by omega
    have hneg : (-e).toNat = n := by omega
    rw [hpos, hneg, he, zpow_neg, zpow_natCast, pow_zero]
    exact inv_mul_cancel₀ (pow_ne_zero n hb)

theorem zpow_le_div_iff {num den : ℕ} (hden : 0 < den) (e : ℤ) :
    (2 : ℚ) ^ e ≤ num / den ↔ den * 2 ^ e.toNat ≤ num * 2 ^ (-e).toNat := by
  have hden : (0 : ℚ) < den := by exact_mod_cast hden
  have hpow : (0 : ℚ) < 2 ^ (-e).toNat := by positivity
  rw [le_div_iff₀ hden, ← mul_le_mul_iff_left₀ hpow, mul_right_comm, zpow_mul_pow two_ne_zero, mul_comm]
  exact_mod_cast Iff.rfl

/-- **The power of two below a quotient.** -/
theorem floorLog2_spec {num den : ℕ} (hnum : 0 < num) (hden : 0 < den) :
    (2 : ℚ) ^ floorLog2 num den ≤ num / den ∧ (num / den : ℚ) < 2 ^ (floorLog2 num den + 1) := by
  have hden' : (0 : ℚ) < den := by exact_mod_cast hden
  -- The difference of the two logarithms is that power or one too much.
  have hnumLow : (2 : ℚ) ^ num.log2 ≤ num := by exact_mod_cast Nat.log2_self_le hnum.ne'
  have hnumHigh : (num : ℚ) < 2 ^ (num.log2 + 1) := by exact_mod_cast Nat.lt_log2_self
  have hdenLow : (2 : ℚ) ^ den.log2 ≤ den := by exact_mod_cast Nat.log2_self_le hden.ne'
  have hdenHigh : (den : ℚ) < 2 ^ (den.log2 + 1) := by exact_mod_cast Nat.lt_log2_self
  have hlow : (2 : ℚ) ^ ((num.log2 : ℤ) - den.log2 - 1) ≤ num / den := by
    rw [le_div_iff₀ hden']
    calc (2 : ℚ) ^ ((num.log2 : ℤ) - den.log2 - 1) * den
        ≤ 2 ^ ((num.log2 : ℤ) - den.log2 - 1) * 2 ^ (den.log2 + 1) := by gcongr
      _ = 2 ^ num.log2 := by
        rw [← zpow_natCast, ← zpow_natCast, ← zpow_add₀ two_ne_zero]
        congr 1
        push_cast
        ring
      _ ≤ num := hnumLow
  have hhigh : (num / den : ℚ) < 2 ^ ((num.log2 : ℤ) - den.log2 + 1) := by
    rw [div_lt_iff₀ hden']
    calc (num : ℚ) < 2 ^ (num.log2 + 1) := hnumHigh
      _ = 2 ^ ((num.log2 : ℤ) - den.log2 + 1) * 2 ^ den.log2 := by
        rw [← zpow_natCast, ← zpow_natCast, ← zpow_add₀ two_ne_zero]
        congr 1
        push_cast
        ring
      _ ≤ 2 ^ ((num.log2 : ℤ) - den.log2 + 1) * den := by gcongr
  rw [floorLog2]
  split
  · next h => exact ⟨(zpow_le_div_iff hden _).mpr h, hhigh⟩
  · next h =>
    have hlt := lt_of_not_ge (mt (zpow_le_div_iff hden _).mp h)
    refine ⟨hlow, ?_⟩
    rw [sub_add_cancel]
    exact hlt

/-! ## Values -/

/-- The values of finite numbers that are not negative, as if there were no greatest one. -/
def Representable (z : ℚ) : Prop := ∃ (a : ℕ) (b : ℤ), a ≤ 2 ^ 53 ∧ minExponent ≤ b ∧ z = a * 2 ^ b

/-- A finite number that is not negative has a value. -/
def HasValue (x : Binary64) (v : ℚ) : Prop :=
  ∃ (m : ℕ) (e : ℤ), x = finite false m e ∧ m ≤ 2 ^ 53 ∧ minExponent ≤ e ∧ v = m * 2 ^ e

/-- A number is rounded to a number of the format, which no other one is nearer to.  Unless the number
is very small, the error is at most a part in `2 ^ 53`. -/
structure RoundsTo (q v : ℚ) : Prop where
  representable : Representable v
  nearest : ∀ z, Representable z → |v - q| ≤ |z - q|
  error : 2 ^ (-1022 : ℤ) ≤ q → |v - q| ≤ q / 2 ^ 53

variable {x y : Binary64} {q v w : ℚ}

theorem representable_natCast {n : ℕ} (h : n ≤ 2 ^ 53) : Representable n :=
  ⟨n, 0, h, by decide, by simp⟩

theorem HasValue.nonneg (h : x.HasValue v) : 0 ≤ v := by
  obtain ⟨m, e, -, -, -, rfl⟩ := h
  positivity

namespace RoundsTo

variable {z : ℚ}

/-- Rounding up passes no number of the format, and neither does rounding down. -/
theorem le_of_le (h : RoundsTo q v) (hz : Representable z) (hle : q ≤ z) : v ≤ z := by
  by_contra hlt
  have hnear := h.nearest z hz
  rw [abs_of_nonneg (by linarith), abs_of_nonneg (by linarith)] at hnear
  linarith

theorem ge_of_ge (h : RoundsTo q v) (hz : Representable z) (hge : z ≤ q) : z ≤ v := by
  by_contra hlt
  have hnear := h.nearest z hz
  rw [abs_of_nonpos (by linarith), abs_of_nonpos (by linarith)] at hnear
  linarith

/-- A number of the format is rounded to itself. -/
theorem eq_of_representable (h : RoundsTo q v) (hq : Representable q) : v = q :=
  le_antisymm (h.le_of_le hq le_rfl) (h.ge_of_ge hq le_rfl)

/-! ### The whole part of what is rounded -/

variable {m : ℕ}

theorem natCast_le_floor (h : RoundsTo q v) (hm : m ≤ 2 ^ 53) (hle : m ≤ q) : (m : ℤ) ≤ ⌊v⌋ :=
  Int.le_floor.mpr (h.ge_of_ge (representable_natCast hm) hle)

theorem floor_le_natCast (h : RoundsTo q v) (hm : m ≤ 2 ^ 53) (hle : q ≤ m) : ⌊v⌋ ≤ m := by
  have hv : v ≤ m := h.le_of_le (representable_natCast hm) hle
  exact_mod_cast (Int.floor_le v).trans hv

/-- Near a whole number it is that number or one beside it. -/
theorem abs_floor_sub_le_one (h : RoundsTo q v) (hq : 0 ≤ q) (hm : m < 2 ^ 53)
    (hnear : |q - m| ≤ 1) : |⌊v⌋ - m| ≤ 1 := by
  obtain ⟨hbelow, habove⟩ := abs_le.mp hnear
  have hhigh := h.floor_le_natCast (m := m + 1) (by omega) (by push_cast; linarith)
  have hlow : (m : ℤ) - 1 ≤ ⌊v⌋ := by
    cases m with
    | zero =>
      have := h.natCast_le_floor (m := 0) (by omega) (by simpa using hq)
      omega
    | succ k =>
      push_cast at hbelow ⊢
      have := h.natCast_le_floor (m := k) (by omega) (by linarith)
      omega
  push_cast at hhigh
  rw [abs_le]
  omega

/-- Below `2 ^ 52` there are halves between the whole numbers, so that the next one is not reached. -/
theorem floor_le_of_le_half (h : RoundsTo q v) (hm : m < 2 ^ 52) (hle : q ≤ m + 1 / 2) :
    ⌊v⌋ ≤ m := by
  have hhalf : Representable (m + 1 / 2) := by
    refine ⟨2 * m + 1, -1, by omega, by decide, ?_⟩
    push_cast
    rw [zpow_neg_one]
    ring
  have hv : v < m + 1 := (h.le_of_le hhalf hle).trans_lt (by linarith)
  exact Int.lt_add_one_iff.mp (Int.floor_lt.mpr (by exact_mod_cast hv))

end RoundsTo

/-! ## One rounding -/

theorem roundsTo_zero : RoundsTo 0 0 where
  representable := ⟨0, 0, by norm_num, by decide, by simp⟩
  nearest z _ := by simp
  error _ := by simp

/-- The unit in the last place of the numbers between two powers of two. -/
def unitExponent (k : ℤ) : ℤ := max (k - 52) minExponent

/-- A number of the format is a multiple of the unit in the last place, or it lies below all numbers
that have this unit. -/
theorem Representable.multiple_or_le {z : ℚ} (h : Representable z) (k : ℤ) :
    (∃ a : ℕ, z = a * 2 ^ unitExponent k) ∨
      z ≤ 2 ^ k ∧ (2 : ℚ) ^ k = (2 ^ 52 : ℕ) * 2 ^ unitExponent k := by
  obtain ⟨a, b, ha, hb, rfl⟩ := h
  rcases le_or_gt (unitExponent k) b with hle | hlt
  · obtain ⟨n, hn⟩ := Int.eq_ofNat_of_zero_le (Int.sub_nonneg.mpr hle)
    have hb' : b = n + unitExponent k := by omega
    refine Or.inl ⟨a * 2 ^ n, ?_⟩
    rw [hb', zpow_add₀ two_ne_zero, zpow_natCast]
    push_cast
    ring
  · -- There are smaller exponents, so that the unit is that of the power of two.
    have hunit : unitExponent k = k - 52 := by
      rw [unitExponent] at hlt ⊢
      omega
    have hk : (2 : ℚ) ^ k = (2 ^ 52 : ℕ) * 2 ^ unitExponent k := by
      rw [hunit, Nat.cast_pow, Nat.cast_ofNat, ← zpow_natCast, ← zpow_add₀ two_ne_zero]
      congr 1
      omega
    refine Or.inr ⟨?_, hk⟩
    calc (a : ℚ) * 2 ^ b ≤ (2 ^ 53 : ℕ) * 2 ^ b := by gcongr
      _ = 2 ^ (53 + b) := by
        rw [Nat.cast_pow, Nat.cast_ofNat, ← zpow_natCast, ← zpow_add₀ two_ne_zero]
        rfl
      _ ≤ 2 ^ k := zpow_le_zpow_right₀ one_le_two (by omega)

/-- Of the multiples of a unit no one is nearer than one that is at most half a unit away. -/
theorem abs_sub_le_of_near {unit : ℚ} {r : ℕ} (hunit : 0 < unit)
    (hnear : |r * unit - q| ≤ unit / 2) (a : ℕ) : |r * unit - q| ≤ |a * unit - q| := by
  obtain ⟨hbelow, habove⟩ := abs_le.mp hnear
  rcases lt_trichotomy a r with hlt | rfl | hgt
  · have hle : ((a : ℚ) + 1) * unit ≤ r * unit := by
      have : (a : ℚ) + 1 ≤ r := by exact_mod_cast hlt
      gcongr
    exact hnear.trans (le_abs.mpr (Or.inr (by linarith)))
  · exact le_rfl
  · have hle : ((r : ℚ) + 1) * unit ≤ a * unit := by
      have : (r : ℚ) + 1 ≤ a := by exact_mod_cast hgt
      gcongr
    exact hnear.trans (le_abs.mpr (Or.inl (by linarith)))

/-- **A number between two powers of two is rounded** by rounding its multiple of the unit in the last
place to a whole number. -/
theorem roundsTo_of_near {k : ℤ} {r : ℕ} (hlow : (2 : ℚ) ^ k ≤ q) (hhigh : q < 2 ^ (k + 1))
    (hnear : |r * 2 ^ unitExponent k - q| ≤ 2 ^ unitExponent k / 2) :
    r ≤ 2 ^ 53 ∧ RoundsTo q (r * 2 ^ unitExponent k) := by
  have hpos : (0 : ℚ) < 2 ^ unitExponent k := by positivity
  have hunit : k - 52 ≤ unitExponent k ∧ minExponent ≤ unitExponent k :=
    ⟨le_max_left _ _, le_max_right _ _⟩
  have hr : r ≤ 2 ^ 53 := by
    have htop : (2 : ℚ) ^ (k + 1) ≤ 2 ^ 53 * 2 ^ unitExponent k := by
      rw [← zpow_natCast, ← zpow_add₀ two_ne_zero]
      exact zpow_le_zpow_right₀ one_le_two (by push_cast; omega)
    have hlt : (r : ℚ) * 2 ^ unitExponent k < (2 ^ 53 + 1) * 2 ^ unitExponent k := by
      have := (abs_le.mp hnear).2
      linarith
    have : (r : ℚ) < 2 ^ 53 + 1 := lt_of_mul_lt_mul_right hlt hpos.le
    exact Nat.lt_succ_iff.mp (by exact_mod_cast this)
  refine ⟨hr, ⟨r, _, hr, hunit.2, rfl⟩, fun z hz => ?_, fun hq => ?_⟩
  · rcases hz.multiple_or_le k with ⟨a, rfl⟩ | ⟨hzk, hk⟩
    · exact abs_sub_le_of_near hpos hnear a
    -- Farther below the number than the power of two, which is a multiple.
    · refine (abs_sub_le_of_near hpos hnear (2 ^ 52)).trans ?_
      rw [← hk, abs_of_nonpos (by linarith), abs_of_nonpos (by linarith)]
      linarith
  · have hk : -1022 < k + 1 := (zpow_lt_zpow_iff_right₀ one_lt_two).mp (hq.trans_lt hhigh)
    have hnormal : unitExponent k = k - 52 := max_eq_left (by rw [minExponent]; omega)
    calc |r * 2 ^ unitExponent k - q| ≤ 2 ^ unitExponent k / 2 := hnear
      _ = 2 ^ k / 2 ^ 53 := by
        rw [hnormal, zpow_sub₀ two_ne_zero]
        norm_num
        ring
      _ ≤ q / 2 ^ 53 := by gcongr

theorem hasValue_zero : (zero false).HasValue 0 :=
  ⟨0, minExponent, rfl, by norm_num, le_rfl, by simp⟩

/-- A significand that has become too long is put into another shape, not changed. -/
theorem hasValue_ofScaled {r : ℕ} {e : ℤ} (hr : r ≤ 2 ^ 53) (he : minExponent ≤ e)
    (he' : e ≤ maxExponent) (htop : e = maxExponent → r < 2 ^ 53) :
    (ofScaled false r e).HasValue (r * 2 ^ e) := by
  rw [ofScaled]
  by_cases hlong : r = Nat.pow 2 precision
  · have hhalf : r = 2 ^ 53 := hlong
    rw [if_pos hlong]
    dsimp only
    rw [if_neg (by omega)]
    refine ⟨r / 2, e + 1, rfl, by omega, by omega, ?_⟩
    rw [hhalf, zpow_add₀ two_ne_zero]
    norm_num
    ring
  · rw [if_neg hlong]
    dsimp only
    rw [if_neg (by omega)]
    exact ⟨r, e, rfl, hr, he, rfl⟩

/-- A quotient of whole numbers rounded to a whole number is a number rounded to a multiple of a
unit, if it is their quotient. -/
theorem abs_roundHalfEven_sub_le {num den : ℕ} {unit d : ℚ} (hden : 0 < den) (hd : 0 < d)
    (hnum : (num : ℚ) = q * d) (hunit : (den : ℚ) = unit * d) :
    |roundHalfEven num den * unit - q| ≤ unit / 2 := by
  obtain ⟨habove, hbelow⟩ := @roundHalfEven_near num _ hden
  generalize roundHalfEven num den = r at habove hbelow
  have habove : 2 * (q * d) ≤ (2 * r + 1) * (unit * d) := by
    rw [← hnum, ← hunit]
    exact_mod_cast habove
  have hbelow : 2 * r * (unit * d) ≤ 2 * (q * d) + unit * d := by
    rw [← hnum, ← hunit]
    exact_mod_cast hbelow
  rw [abs_le]
  constructor
  · refine le_of_mul_le_mul_right ?_ hd
    linarith
  · refine le_of_mul_le_mul_right ?_ hd
    linarith

/-- **The rounding of a quotient** is the whole number nearest to its multiple of the unit in the
last place, times the unit, and an even multiple if there are two that are equally near. -/
theorem exists_round_near {num den : ℕ} (hnum : 0 < num) (hden : 0 < den) :
    ∃ (k : ℤ) (r : ℕ), (2 : ℚ) ^ k ≤ num / den ∧ (num / den : ℚ) < 2 ^ (k + 1) ∧
      round false num den = ofScaled false r (unitExponent k) ∧
      |r * 2 ^ unitExponent k - (num / den : ℚ)| ≤ 2 ^ unitExponent k / 2 ∧
      ∀ s : ℕ, (num / den : ℚ) = (s + 1 / 2) * 2 ^ unitExponent k → r % 2 = 0 := by
  obtain ⟨hlow, hhigh⟩ := floorLog2_spec hnum hden
  have hround : round false num den =
      ofScaled false (roundHalfEven (num * 2 ^ (-unitExponent (floorLog2 num den)).toNat)
        (den * 2 ^ (unitExponent (floorLog2 num den)).toNat))
        (unitExponent (floorLog2 num den)) := by
    rw [round, if_neg hnum.ne']
    rfl
  rw [hround]
  generalize floorLog2 num den = k at hlow hhigh
  -- The parts of the quotient that is rounded are the number and the unit, both scaled.
  have hden' : (den : ℚ) ≠ 0 := by exact_mod_cast hden.ne'
  have hnumber : ((num * 2 ^ (-unitExponent k).toNat : ℕ) : ℚ) =
      num / den * (den * 2 ^ (-unitExponent k).toNat) := by
    push_cast
    field_simp
  have hscaled : ((den * 2 ^ (unitExponent k).toNat : ℕ) : ℚ) =
      2 ^ unitExponent k * (den * 2 ^ (-unitExponent k).toNat) := by
    push_cast
    rw [← zpow_mul_pow two_ne_zero]
    ring
  refine ⟨k, _, hlow, hhigh, rfl,
    abs_roundHalfEven_sub_le (by positivity) (by positivity) hnumber hscaled, fun s htie => ?_⟩
  refine roundHalfEven_even_of_tie (s := s) (by positivity) ?_
  have htwice : (2 * (num * 2 ^ (-unitExponent k).toNat : ℕ) : ℚ) =
      (2 * s + 1) * (den * 2 ^ (unitExponent k).toNat : ℕ) := by
    rw [hnumber, hscaled, htie]
    ring
  exact_mod_cast htwice

/-- The number that lies half a unit above the greatest finite one.  Below it the rounding is
finite. -/
def overflow : ℚ := (2 ^ 54 - 1) * 2 ^ (970 : ℤ)

/-- The overflow among the powers of two. -/
theorem overflow_bounds : (2 : ℚ) ^ (1000 : ℤ) < overflow ∧ overflow < 2 ^ (1024 : ℤ) ∧
    overflow = (2 ^ 53 - 1 / 2) * 2 ^ (971 : ℤ) := by
  have hpower : ∀ n : ℕ, (2 : ℚ) ^ (970 + n : ℤ) = 2 ^ n * 2 ^ (970 : ℤ) := fun n => by
    rw [zpow_add₀ two_ne_zero, zpow_natCast, mul_comm]
  have hlow : (2 : ℚ) ^ (1000 : ℤ) = 2 ^ 30 * 2 ^ (970 : ℤ) := hpower 30
  have hhigh : (2 : ℚ) ^ (1024 : ℤ) = 2 ^ 54 * 2 ^ (970 : ℤ) := hpower 54
  have hnext : (2 : ℚ) ^ (971 : ℤ) = 2 ^ 1 * 2 ^ (970 : ℤ) := hpower 1
  have hpos : (0 : ℚ) < 2 ^ (970 : ℤ) := by positivity
  rw [overflow, hlow, hhigh, hnext]
  generalize (2 : ℚ) ^ (970 : ℤ) = t at hpos
  refine ⟨?_, ?_, ?_⟩
  · linarith
  · linarith
  · ring

/-- What is rounded to a multiple of a unit is finite below the overflow. -/
theorem hasValue_ofScaled_of_lt_overflow {k : ℤ} {r : ℕ} (hlow : (2 : ℚ) ^ k ≤ q)
    (hlt : q < overflow) (hr : r ≤ 2 ^ 53)
    (hnear : |r * 2 ^ unitExponent k - q| ≤ 2 ^ unitExponent k / 2) :
    (ofScaled false r (unitExponent k)).HasValue (r * 2 ^ unitExponent k) := by
  obtain ⟨-, hhigh, htop⟩ := overflow_bounds
  have hk : k < 1024 :=
    (zpow_lt_zpow_iff_right₀ one_lt_two).mp (hlow.trans_lt (hlt.trans hhigh))
  have hunit : minExponent ≤ unitExponent k ∧ unitExponent k ≤ maxExponent := by
    rw [unitExponent, minExponent, maxExponent]
    omega
  refine hasValue_ofScaled hr hunit.1 hunit.2 fun hunit => ?_
  -- With the greatest unit there is no room for the power of two above.
  have hpos : (0 : ℚ) < 2 ^ (971 : ℤ) := by positivity
  rw [hunit, maxExponent] at hnear
  rw [htop] at hlt
  generalize (2 : ℚ) ^ (971 : ℤ) = unit at hnear hlt hpos
  have hbelow : (r : ℚ) * unit < 2 ^ 53 * unit := by
    have habove := (abs_le.mp hnear).2
    linarith
  have : (r : ℚ) < 2 ^ 53 := lt_of_mul_lt_mul_right hbelow hpos.le
  exact_mod_cast this

/-- **The rounding of a quotient** that is far below the greatest finite number. -/
theorem exists_round {num den : ℕ} (hden : 0 < den) (hlt : (num / den : ℚ) < 2 ^ (1000 : ℤ)) :
    ∃ v, (round false num den).HasValue v ∧ RoundsTo (num / den) v := by
  rcases Nat.eq_zero_or_pos num with rfl | hnum
  · refine ⟨0, ?_, ?_⟩
    · rw [round, if_pos rfl]
      exact hasValue_zero
    · rw [Nat.cast_zero, zero_div]
      exact roundsTo_zero
  · have hoverflow : (num / den : ℚ) < overflow := hlt.trans overflow_bounds.1
    obtain ⟨k, r, hlow, hhigh, hround, hnear, -⟩ := exists_round_near hnum hden
    obtain ⟨hr, hrounds⟩ := roundsTo_of_near hlow hhigh hnear
    rw [hround]
    exact ⟨_, hasValue_ofScaled_of_lt_overflow hlow hoverflow hr hnear, hrounds⟩

/-! ## Operations -/

/-- **The product** of two numbers is their exact product, rounded. -/
theorem exists_mul (hx : x.HasValue v) (hy : y.HasValue w) (hlt : v * w < 2 ^ (1000 : ℤ)) :
    ∃ p, (x.mul y).HasValue p ∧ RoundsTo (v * w) p := by
  obtain ⟨m, e, rfl, -, -, rfl⟩ := hx
  obtain ⟨n, f, rfl, -, -, rfl⟩ := hy
  have hproduct : ((m * n * 2 ^ (e + f).toNat : ℕ) / (2 ^ (-(e + f)).toNat : ℕ) : ℚ) =
      m * 2 ^ e * (n * 2 ^ f) := by
    push_cast
    rw [div_eq_iff (by positivity), ← zpow_mul_pow two_ne_zero, zpow_add₀ two_ne_zero]
    ring
  have hden : 0 < 2 ^ (-(e + f)).toNat := by positivity
  have hround := exists_round hden (hproduct ▸ hlt)
  rw [hproduct] at hround
  exact hround

/-- Whole numbers up to `2 ^ 53` are numbers of the format. -/
theorem hasValue_ofInt {n : ℕ} (h : n ≤ 2 ^ 53) : (ofInt n).HasValue n := by
  have hlt : (n / (1 : ℕ) : ℚ) < 2 ^ (1000 : ℤ) := by
    have : (n : ℚ) ≤ 2 ^ 53 := by exact_mod_cast h
    rw [Nat.cast_one, div_one]
    exact this.trans_lt (zpow_lt_zpow_right₀ one_lt_two (by decide : (53 : ℤ) < 1000))
  obtain ⟨v, hv, hrounds⟩ := exists_round Nat.one_pos hlt
  have hsign : ofInt n = round false n 1 := by
    rw [ofInt, Int.natAbs_natCast, decide_eq_false (by omega)]
  rw [Nat.cast_one, div_one] at hrounds
  rw [hsign, ← hrounds.eq_of_representable (representable_natCast h)]
  exact hv

/-- A value as a quotient of whole numbers. -/
theorem value_eq_div (m : ℕ) (e : ℤ) :
    (m * 2 ^ e : ℚ) = (m * 2 ^ e.toNat : ℕ) / (2 ^ (-e).toNat : ℕ) := by
  push_cast
  rw [eq_div_iff (by positivity), mul_assoc, zpow_mul_pow two_ne_zero]

/-- **The whole part** of a number. -/
theorem truncated?_of_hasValue (hx : x.HasValue v) : x.truncated? = some ⌊v⌋ := by
  obtain ⟨m, e, rfl, -, -, rfl⟩ := hx
  rw [value_eq_div, Rat.floor_natCast_div_natCast]
  rfl

/-- **The fraction** of a number is a number of the format. -/
theorem hasValue_fraction (hx : x.HasValue v) : x.fraction.HasValue (Int.fract v) := by
  obtain ⟨m, e, rfl, hm, he, rfl⟩ := hx
  have hfract : Int.fract (m * 2 ^ e : ℚ) = (m % 2 ^ (-e).toNat : ℕ) / (2 ^ (-e).toNat : ℕ) := by
    rw [value_eq_div, Int.fract_div_natCast_eq_div_natCast_mod]
    rcases Int.le_total e 0 with hle | hle
    · rw [Int.toNat_of_nonpos hle, pow_zero, mul_one]
    · rw [Int.toNat_of_nonpos (Int.neg_nonpos_of_nonneg hle), pow_zero, Nat.mod_one, Nat.mod_one]
  have hlt : ((m % 2 ^ (-e).toNat : ℕ) / (2 ^ (-e).toNat : ℕ) : ℚ) < 2 ^ (1000 : ℤ) := by
    rw [← hfract]
    exact (Int.fract_lt_one _).trans (one_lt_zpow₀ one_lt_two (by decide))
  -- What is left of the significand keeps the exponent; a number with a great one is whole.
  have hrepresentable : Representable (Int.fract (m * 2 ^ e : ℚ)) := by
    rcases Int.le_total e 0 with hle | hle
    · refine ⟨m % 2 ^ (-e).toNat, e, (Nat.mod_le _ _).trans hm, he, ?_⟩
      have hpow := zpow_mul_pow two_ne_zero e
      rw [Int.toNat_of_nonpos hle, pow_zero] at hpow
      rw [hfract, div_eq_iff (by positivity)]
      push_cast
      rw [mul_assoc, hpow, mul_one]
    · rw [hfract, Int.toNat_of_nonpos (Int.neg_nonpos_of_nonneg hle), pow_zero, Nat.mod_one]
      exact ⟨0, 0, by norm_num, by decide, by simp⟩
  obtain ⟨w, hw, hrounds⟩ := exists_round (by positivity) hlt
  rw [← hfract] at hrounds
  rw [← hrounds.eq_of_representable hrepresentable]
  exact hw

end Timephrase.Binary64
