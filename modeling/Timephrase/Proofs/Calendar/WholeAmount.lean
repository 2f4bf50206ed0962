import Timephrase.Proofs.Calendar.Fraction
import Timephrase.Proofs.Number.Signed

/-!
# Whole amounts of a unit

A move by an amount multiplies floating-point numbers, or splits off what is left of whole units; a
move by whole units multiplies whole numbers.  Where the amount is whole, both come to the same.  The
units are whole seconds, with many factors of two in their nanoseconds, so that no product that fits
a word of 64 bits is rounded, and nothing is left of whole days and weeks.

## Main results

* `Duration.scaled?_of_isInt`: a whole amount of a unit
* `Grain.representable_mul`: the products that are not rounded
* `Moment.shift?_of_isInt`: a move by a whole amount
* `Moment.whole_amount_moves_alike`: a whole number as an amount and as a number of units
-/

namespace Timephrase

open Binary64

variable {x : Binary64} {n : ℤ} {unit : Duration} {grain : Grain}

/-- **A whole amount of a unit** is the exact product, if that is a number of the format and fits a
word of 64 bits. -/
theorem Duration.scaled?_of_isInt (hx : x.IsInt n) (hunit : unit.nanos.natAbs ≤ 2 ^ 53)
    (hproduct : Representable (n * unit.nanos).natAbs) (hlt : (n * unit.nanos).natAbs < 2 ^ 63) :
    scaled? x unit = some ⟨n * unit.nanos⟩ := by
  have hword : unit.word? = some unit.nanos := by
    rw [word?, if_pos (by omega)]
  have hsmall : ((n * unit.nanos).natAbs : ℚ) < 2 ^ (1000 : ℤ) :=
    calc ((n * unit.nanos).natAbs : ℚ) < 2 ^ (63 : ℤ) := by exact_mod_cast hlt
      _ < 2 ^ (1000 : ℤ) := zpow_lt_zpow_right₀ one_lt_two (by decide)
  have hexact : (x.mul (.ofInt unit.nanos)).truncated? = some (n * unit.nanos) :=
    (hx.mul (isInt_ofInt hunit) hproduct hsmall).truncated?
  rw [scaled?, hword]
  simp only [Option.bind_eq_bind, Option.bind_some, hexact]
  exact if_pos hlt

/-- A number that is not too large but for factors of two is a number of the format. -/
theorem representable_of_eq_mul {k odd power : ℕ} (h : k = odd * 2 ^ power)
    (hodd : odd ≤ 2 ^ 53) : Representable k := by
  refine ⟨odd, power, hodd, ?_, ?_⟩
  · rw [minExponent]
    omega
  · rw [h, zpow_natCast]
    push_cast
    rfl

/-- **The nanoseconds of whole seconds, minutes and hours** that fit a word of 64 bits are numbers of
the format. -/
theorem Grain.representable_mul (hunit : grain.fixedLength? = some unit)
    (hgrain : grain = .second ∨ grain = .minute ∨ grain = .hour) (hn : n.natAbs < 2 ^ 31 - 1)
    (hlt : (n * unit.nanos).natAbs < 2 ^ 63) : Representable (n * unit.nanos).natAbs := by
  rw [Int.natAbs_mul] at hlt ⊢
  -- Each length is a few digits times a power of two, and they leave places enough for the count.
  rcases hgrain with rfl | rfl | rfl
  · obtain rfl := Option.some.inj hunit
    have hnanos : Duration.second.nanos.natAbs = 1953125 * 2 ^ 9 := rfl
    rw [hnanos] at hlt ⊢
    exact representable_of_eq_mul (Nat.mul_assoc _ _ _).symm (by omega)
  · obtain rfl := Option.some.inj hunit
    have hnanos : Duration.minute.nanos.natAbs = 29296875 * 2 ^ 11 := rfl
    rw [hnanos] at hlt ⊢
    exact representable_of_eq_mul (Nat.mul_assoc _ _ _).symm (by omega)
  · obtain rfl := Option.some.inj hunit
    have hnanos : Duration.hour.nanos.natAbs = 439453125 * 2 ^ 13 := rfl
    rw [hnanos] at hlt ⊢
    exact representable_of_eq_mul (Nat.mul_assoc _ _ _).symm (by omega)

namespace Moment

variable {m : Moment}

section

variable (hx : x.IsInt n) (hn : n.natAbs < 2 ^ 31 - 1)

include hx hn

theorem wholeUnits?_of_isInt : wholeUnits? x = some n := by
  rw [wholeUnits?, hx.truncated?]
  exact if_pos hn

/-- Months and years are only ever moved over whole. -/
theorem shift?_of_isInt_of_no_length (hunit : grain.fixedLength? = none) :
    m.shift? x grain = m.shiftWhole? n grain := by
  have hcounted : m.shift? x grain =
      if x.isWhole then (wholeUnits? x).bind (m.shiftWhole? · grain) else none := by
    cases grain with
    | month | year => rfl
    | second | minute | hour | day | week => cases hunit
  rw [hcounted, if_pos hx.isWhole, wholeUnits?_of_isInt hx hn]
  rfl

/-- With days and weeks the rest of a whole amount is nothing. -/
theorem shift?_of_isInt_of_days {unit : Duration} (hunit : grain.fixedLength? = some unit)
    (hgrain : grain = .day ∨ grain = .week) : m.shift? x grain = m.shiftWhole? n grain := by
  obtain ⟨u, hu, -, hle⟩ := Grain.exists_nanos hunit
  have hrest : Duration.scaled? x.fraction unit = some ⟨0 * unit.nanos⟩ :=
    Duration.scaled?_of_isInt hx.fraction (by omega)
      (by rw [Int.zero_mul]; exact representable_natCast (Nat.zero_le _))
      (by rw [Int.zero_mul]; norm_num)
  rw [shift?_eq hunit, if_pos hgrain, wholeUnits?_of_isInt hx hn, Option.bind_some, hrest]
  cases hmoved : m.shiftWhole? n grain with
  | none => rfl
  | some shifted =>
    obtain ⟨d, -, hadd⟩ := exists_add?_of_shiftWhole? hunit hmoved
    exact add?_zero (kept_of_add? hadd).2 (Int.zero_mul _)

/-- Seconds, minutes and hours are moved over in nanoseconds. -/
theorem shift?_of_isInt_of_clock {unit : Duration} (hunit : grain.fixedLength? = some unit)
    (hclock : grain = .second ∨ grain = .minute ∨ grain = .hour)
    (hlength : (n * unit.nanos).natAbs < 2 ^ 63) : m.shift? x grain = m.shiftWhole? n grain := by
  have hgrain : ¬ (grain = .day ∨ grain = .week) := by
    rcases hclock with rfl | rfl | rfl
    · decide
    · decide
    · decide
  obtain ⟨u, hu, -, hle⟩ := Grain.exists_nanos hunit
  have hscaled := Duration.scaled?_of_isInt hx (by omega)
    (Grain.representable_mul hunit hclock hn hlength) hlength
  have hcount : IsShiftCount n := by
    rw [IsShiftCount]
    omega
  rw [shift?_eq hunit, if_neg hgrain, hscaled, Option.bind_some,
    shiftWhole?_of_isShiftCount hunit hcount]

/-- **A move by a whole amount** is one by this number of units. -/
theorem shift?_of_isInt (hlength : ∀ unit, grain.fixedLength? = some unit →
      grain = .second ∨ grain = .minute ∨ grain = .hour → (n * unit.nanos).natAbs < 2 ^ 63) :
    m.shift? x grain = m.shiftWhole? n grain := by
  cases hunit : grain.fixedLength? with
  | none => exact shift?_of_isInt_of_no_length hx hn hunit
  | some unit =>
    by_cases hgrain : grain = .day ∨ grain = .week
    · exact shift?_of_isInt_of_days hx hn hunit hgrain
    · have hclock : grain = .second ∨ grain = .minute ∨ grain = .hour := by
        cases grain with
        | second | minute | hour => simp
        | day | week => simp at hgrain
        | month | year => cases hunit
      exact shift?_of_isInt_of_clock hx hn hunit hclock (hlength unit hunit hclock)

end

/-- **A whole number as an amount and as a number of units** moves a moment alike: to the same
moment, or to none.  The number is less than `2 ^ 31 - 1` in size, and so many seconds, minutes or
hours are less than `2 ^ 63` nanoseconds. -/
theorem whole_amount_moves_alike (m : Moment) (grain : Grain) (n : ℤ) (hn : |n| < 2 ^ 31 - 1)
    (hlength : ∀ unit, grain.fixedLength? = some unit →
      grain = .second ∨ grain = .minute ∨ grain = .hour → |n| * unit.nanos < 2 ^ 63) :
    m.shift? (.ofInt n) grain = m.shiftWhole? n grain := by
  rw [Int.abs_eq_natAbs] at hn hlength
  have hsize : n.natAbs < 2 ^ 31 - 1 := by omega
  refine shift?_of_isInt (isInt_ofInt (by omega)) hsize fun unit hunit hclock => ?_
  obtain ⟨u, hu, -, -⟩ := Grain.exists_nanos hunit
  have hlt := hlength unit hunit hclock
  rw [hu] at hlt
  rw [Int.natAbs_mul, hu]
  exact_mod_cast hlt

/-- The most hours back that fit, from a leap second; and more weeks than the calendar has. -/
theorem whole_amount_moves_alike_hours_back :
    |(-2562047 : ℤ)| < 2 ^ 31 - 1 ∧ |(-2562047 : ℤ)| * Duration.hour.nanos < 2 ^ 63 ∧
    (⟨⟨1483228799, 1500000000⟩, 0⟩ : Moment).shift? (.ofInt (-2562047)) .hour =
      some ⟨⟨-7740140400, 500000000⟩, 0⟩ ∧
    |(2147483646 : ℤ)| < 2 ^ 31 - 1 ∧
    (⟨⟨1483228799, 1500000000⟩, 0⟩ : Moment).shift? (.ofInt 2147483646) .week = none := by
  have hhours : |(-2562047 : ℤ)| * Duration.hour.nanos < 2 ^ 63 := by decide
  refine ⟨by decide, hhours, ?_, by decide, ?_⟩
  · rw [whole_amount_moves_alike _ .hour (-2562047) (by decide) (by
      rintro unit ⟨⟩ -
      exact hhours)]
    decide +kernel
  · rw [whole_amount_moves_alike _ .week 2147483646 (by decide) (by
      rintro unit - (h | h | h)
      · cases h
      · cases h
      · cases h)]
    decide +kernel

end Moment

end Timephrase
