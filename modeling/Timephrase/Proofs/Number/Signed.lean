import Timephrase.Proofs.Number.Whole

/-!
# Whole numbers of either sign

A sign does not change how a number is rounded, so what is known of numbers that are not negative
holds of the others too.  Whole numbers are not changed at all where they are numbers of the format:
neither when they are converted, nor when two of them are multiplied, nor when a fraction is cut off.

## Main definitions

* `Binary64.IsInt`: a number of the format is a whole number

## Main results

* `Binary64.isInt_ofInt`: whole numbers that are converted
* `Binary64.IsInt.mul`: products of whole numbers
* `Binary64.IsInt.truncated?`, `Binary64.IsInt.isWhole`, `Binary64.IsInt.fraction`: the parts of a
  whole number
-/

namespace Timephrase.Binary64

variable {x y : Binary64} {v : ℚ} {a b n : ℤ} {s : Bool} {num den : ℕ}

theorem exists_ofScaled_eq (m : ℕ) (e : ℤ) : ∃ (m' : ℕ) (e' : ℤ), ∀ s,
    ofScaled s m e = if maxExponent < e' then infinite s else finite s m' e' :=
  ⟨_, _, fun _ => rfl⟩

/-- **A sign does not change the rounding** of a quotient. -/
theorem exists_round_eq (h : (round false num den).HasValue v) (s : Bool) :
    ∃ (m : ℕ) (e : ℤ), round s num den = finite s m e ∧ (finite false m e).HasValue v := by
  rw [round] at h ⊢
  split at h
  · next hnum =>
    rw [if_pos hnum]
    exact ⟨0, minExponent, rfl, h⟩
  · next hnum =>
    rw [if_neg hnum]
    dsimp only at h ⊢
    obtain ⟨m, e, hscaled⟩ := exists_ofScaled_eq (roundHalfEven _ _) _
    rw [hscaled] at h ⊢
    -- A number that has a value is not too large.
    split at h
    · obtain ⟨m', e', hfinite, -⟩ := h
      cases hfinite
    · next hle =>
      rw [if_neg hle]
      exact ⟨m, e, rfl, h⟩

/-- A number of the format is a whole number.  Zero may have either sign. -/
def IsInt (x : Binary64) (n : ℤ) : Prop :=
  ∃ (s : Bool) (m : ℕ) (e : ℤ), x = finite s m e ∧ (finite false m e).HasValue n.natAbs ∧
    (n < 0 → s = true) ∧ (0 < n → s = false)

theorem isInt_round (h : (round false num den).HasValue n.natAbs) (hneg : n < 0 → s = true)
    (hpos : 0 < n → s = false) : (round s num den).IsInt n := by
  obtain ⟨m, e, hround, hvalue⟩ := exists_round_eq h s
  exact ⟨s, m, e, hround, hvalue, hneg, hpos⟩

/-- **A whole number is converted** to itself. -/
theorem isInt_ofInt (h : n.natAbs ≤ 2 ^ 53) : (ofInt n).IsInt n := by
  have hsize : (round false n.natAbs 1).HasValue n.natAbs := by
    have hvalue := hasValue_ofInt h
    rwa [ofInt, Int.natAbs_natCast, decide_eq_false (by omega)] at hvalue
  rw [ofInt]
  refine isInt_round hsize (fun hneg => decide_eq_true hneg) fun hpos => decide_eq_false ?_
  omega

namespace IsInt

/-- **A product of whole numbers** is exact, if it is a number of the format. -/
theorem mul (hx : x.IsInt a) (hy : y.IsInt b) (h : Representable (a * b).natAbs)
    (hlt : ((a * b).natAbs : ℚ) < 2 ^ (1000 : ℤ)) : (x.mul y).IsInt (a * b) := by
  obtain ⟨s, m, e, rfl, hm, hneg, hpos⟩ := hx
  obtain ⟨t, k, f, rfl, hk, hneg', hpos'⟩ := hy
  have hsize : (a.natAbs * b.natAbs : ℚ) = (a * b).natAbs := by
    rw [Int.natAbs_mul, Nat.cast_mul]
  obtain ⟨p, hp, hrounds⟩ := exists_mul hm hk (hsize ▸ hlt)
  rw [hsize] at hrounds
  obtain rfl := hrounds.eq_of_representable h
  -- The signs of the factors make that of the product, unless that is zero.
  refine isInt_round hp (fun hneg'' => ?_) fun hpos'' => ?_
  · rcases Int.mul_neg_iff.mp hneg'' with ⟨ha, hb⟩ | ⟨ha, hb⟩
    · rw [hpos ha, hneg' hb]
      rfl
    · rw [hneg ha, hpos' hb]
      rfl
  · rcases Int.mul_pos_iff.mp hpos'' with ⟨ha, hb⟩ | ⟨ha, hb⟩
    · rw [hpos ha, hpos' hb]
      rfl
    · rw [hneg ha, hneg' hb]
      rfl

variable (h : x.IsInt n)

include h

/-- **The whole part** of a whole number is the number. -/
theorem truncated? : x.truncated? = some n := by
  obtain ⟨s, m, e, rfl, hvalue, hneg, hpos⟩ := h
  have hwhole := truncated?_of_hasValue hvalue
  rw [Int.floor_natCast] at hwhole
  have hsize := Option.some.inj hwhole
  rw [if_neg Bool.false_ne_true] at hsize
  rw [Binary64.truncated?, hsize, Option.some.injEq]
  rcases Int.lt_trichotomy n 0 with hn | rfl | hn
  · rw [if_pos (hneg hn)]
    omega
  · split <;> rfl
  · rw [hpos hn, if_neg Bool.false_ne_true]
    omega

theorem isWhole : x.isWhole = true := by
  obtain ⟨s, m, e, rfl, hvalue, -, -⟩ := h
  exact (isWhole_of_hasValue hvalue).mpr ⟨n.natAbs, rfl⟩

/-- **The fraction** of a whole number is zero. -/
theorem fraction : x.fraction.IsInt 0 := by
  have hwhole := h.isWhole
  obtain ⟨s, m, e, rfl, -, -, -⟩ := h
  have hrest : m % Nat.pow 2 (-e).toNat = 0 := beq_iff_eq.mp hwhole
  rw [Binary64.fraction, hrest, round, if_pos rfl]
  exact ⟨s, 0, minExponent, rfl, hasValue_zero, fun hneg => absurd hneg (Int.lt_irrefl 0),
    fun hpos => absurd hpos (Int.lt_irrefl 0)⟩

end IsInt

end Timephrase.Binary64
