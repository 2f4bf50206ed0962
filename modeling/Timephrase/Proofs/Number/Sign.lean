import Timephrase.Number.Decimal

/-!
# Numbers without a minus sign

Rounding keeps the sign that it is given, and the sign of a product is made of the signs of its
factors.  So no minus sign comes out of numbers that are written without one.

## Main definitions

* `Binary64.IsUnsigned`: numbers without a minus sign

## Main results

* `Binary64.IsUnsigned.mul`: products
* `Binary64.IsUnsigned.nonneg_of_truncated?`: whole parts
* `Binary64.isUnsigned_of_ofText?`: numbers that a text denotes
-/

namespace Timephrase

namespace Binary64

variable {x y : Binary64}

/-- A number that has no minus sign, like what is not a number. -/
def IsUnsigned : Binary64 → Prop
  | nan => True
  | infinite negative => negative = false
  | finite negative _ _ => negative = false

theorem isUnsigned_zero : (zero false).IsUnsigned := rfl

theorem isUnsigned_ofScaled (m : Nat) (e : Int) : (ofScaled false m e).IsUnsigned := by
  rw [ofScaled]
  -- Whatever the significand is carried into, the sign is the one given.
  split
  split <;> rfl

theorem isUnsigned_round (num den : Nat) : (round false num den).IsUnsigned := by
  rw [round]
  split
  · exact isUnsigned_zero
  · exact isUnsigned_ofScaled _ _

theorem isUnsigned_ofInt {n : Int} (h : 0 ≤ n) : (ofInt n).IsUnsigned := by
  rw [ofInt, decide_eq_false (Int.not_lt.mpr h)]
  exact isUnsigned_round _ _

/-- **A product has no minus sign** if its factors have none. -/
theorem IsUnsigned.mul (hx : x.IsUnsigned) (hy : y.IsUnsigned) : (x.mul y).IsUnsigned := by
  cases x with
  | nan => trivial
  | infinite s =>
    obtain rfl : s = false := hx
    cases y with
    | nan => trivial
    | infinite t =>
      obtain rfl : t = false := hy
      rfl
    | finite t m e =>
      obtain rfl : t = false := hy
      -- Infinity times zero is not a number.
      rw [Binary64.mul]
      split
      · trivial
      · rfl
  | finite s m e =>
    obtain rfl : s = false := hx
    cases y with
    | nan => trivial
    | infinite t =>
      obtain rfl : t = false := hy
      rw [Binary64.mul]
      split
      · trivial
      · rfl
    | finite t n f =>
      obtain rfl : t = false := hy
      exact isUnsigned_round _ _

/-- The whole part of a number without a minus sign is not negative. -/
theorem IsUnsigned.nonneg_of_truncated? {n : Int} (hx : x.IsUnsigned)
    (h : x.truncated? = some n) : 0 ≤ n := by
  cases x with
  | nan => cases h
  | infinite s => cases h
  | finite s m e =>
    obtain rfl : s = false := hx
    obtain rfl := Option.some.inj h
    exact Int.natCast_nonneg _

end Binary64

theorem Decimal.isUnsigned_nearest (d : Decimal) : (d.nearest false).IsUnsigned := by
  rw [nearest]
  split
  · exact Binary64.isUnsigned_zero
  · dsimp only
    split
    · rfl
    · split
      · exact Binary64.isUnsigned_zero
      · exact Binary64.isUnsigned_round _ _

namespace Binary64

variable {x : Binary64}

theorem isUnsigned_of_ofUnsigned? {cs : List Char} (h : ofUnsigned? false cs = some x) :
    x.IsUnsigned := by
  rw [ofUnsigned?] at h
  split at h
  · cases h
    trivial
  · split at h
    · cases h
      rfl
    · obtain ⟨d, -, rfl⟩ := Option.map_eq_some_iff.mp h
      exact d.isUnsigned_nearest

/-- **A number that is written without a minus sign** has none. -/
theorem isUnsigned_of_ofText? {text : String} (hminus : text.toList.head? ≠ some '-')
    (h : ofText? text = some x) : x.IsUnsigned := by
  rw [ofText?] at h
  split at h
  · next htext =>
    rw [htext] at hminus
    exact absurd rfl hminus
  · exact isUnsigned_of_ofUnsigned? h
  · exact isUnsigned_of_ofUnsigned? h

end Binary64

end Timephrase
