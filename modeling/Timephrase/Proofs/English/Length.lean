import Timephrase.English.ForPhrase
import Timephrase.English.InPhrase
import Timephrase.Proofs.Calendar.Fraction
import Timephrase.Proofs.Number.Decimal

/-!
# Lengths of amounts

The rule for lengths and the one for shifts read the same amounts, the second counting days and
weeks whole before it multiplies.  Where an amount comes to a whole number of nanoseconds, either
rule reckons with that number or with one beside it.

## Main results

* `English.amount_eq_ok`: the amount of a phrase
* `English.lengths_of_amount`: what the two rules make of an amount
* `English.length_cut_short`: an amount of which a nanosecond is lost
-/

namespace Timephrase.English

variable {text : String} {c : Captures} {x : Binary64} {grain : Grain} {unit : Duration} {q : ℚ}
  {N : ℕ}

/-- The amount of a phrase is what its text denotes. -/
theorem amount_eq_ok (hne : text ≠ "") (hfloat : Captures.float text = .ok x)
    (hc : c.text "amount" = text) : amount c = .ok x := by
  have hhas : c.has "amount" = true := by
    rw [Captures.has, hc]
    exact bne_iff_ne.mpr hne
  rw [amount, Captures.require, Captures.read?, if_pos hhas, hc, hfloat]
  rfl

/-- **Lengths of amounts.**  Let digits with at most one point write an amount `q` that comes to a
whole number `N` of nanoseconds, fewer than `2 ^ 53`, of a unit of fixed length.  The text is read
as the floating-point number nearest to `q`, which is multiplied, rounded and cut off.  So a
duration has nearly `N` nanoseconds added to it, and a moment is moved by nearly as many, if the
results are in range.  The two numbers differ by one at most, and not at all for units shorter than
a day; both are `N` if `q` is a floating-point number itself. -/
theorem lengths_of_amount (hwrites : Decimal.Writes text q)
    (hunit : grain.fixedLength? = some unit) (hwhole : q * unit.nanos = N) (hN : N < 2 ^ 53) :
    ∃ x v, Captures.float text = .ok x ∧ x.HasValue v ∧ Binary64.RoundsTo q v ∧
      ∃ added moved, Duration.Reckons v unit 0 added ∧
        Duration.Reckons v unit (if grain = .day ∨ grain = .week then ⌊v⌋ else 0) moved ∧
        Duration.Approximates q v N added ∧ Duration.Approximates q v N moved ∧
        |added - moved| ≤ 1 ∧ (¬(grain = .day ∨ grain = .week) → added = moved) ∧
        (Binary64.Representable q → added = N ∧ moved = N) ∧
        (∀ d c, c.text "amount" = text → English.unit c = .ok grain →
          lengthAdded d c = inRange c (d.add? ⟨added⟩)) ∧
        ∀ t c, t.Supported → c.text "amount" = text → English.unit c = .ok grain →
          shifted t c = inRange c (t.add? ⟨moved⟩) := by
  obtain ⟨x, v, hfloat, hx, hv⟩ := hwrites.exists_float (Duration.le_amount hunit hwhole)
    (Duration.amount_lt hunit hwhole hN)
  obtain ⟨added, hreckons, hadded, hscaled⟩ :=
    Duration.exists_approximates_scaled? hunit hwhole hN hx hv
  obtain ⟨moved, hreckons', hmoved, hsame, hshift⟩ :=
    Moment.exists_shift? hunit hwhole hN hx hv
  -- One floating-point number stands for the amount in the duration and in the move.
  refine ⟨x, v, hfloat, hx, hv, added, moved, hreckons, hreckons', hadded, hmoved,
    hadded.abs_sub_le_one hmoved, fun hgrain => ?_, fun hq => ?_, fun d c hc hc' => ?_,
    fun t c ht hc hc' => ?_⟩
  · have := hscaled.symm.trans (hsame hgrain)
    exact Duration.mk.inj (Option.some.inj this)
  · have hexact := hv.eq_of_representable hq
    exact ⟨hadded.eq_exact hexact, hmoved.eq_exact hexact⟩
  · have hamount := amount_eq_ok hwrites.ne_empty hfloat hc
    rw [lengthAdded, hamount, hc']
    simp only [Except.bind, bind, Option.bind, hunit, hscaled]
  · have hamount := amount_eq_ok hwrites.ne_empty hfloat hc
    have hcalendric : grain.isCalendric = false := by
      rw [← Bool.not_eq_true, ← Grain.fixedLength?_eq_none_iff, hunit]
      exact Option.some_ne_none unit
    rw [shifted, hamount, hc']
    simp only [Except.bind, bind, hcalendric, Bool.false_and, Bool.false_eq_true, if_false,
      hshift t ht]

/-- One and a half days, of a duration and of a moment. -/
theorem lengths_of_day_and_half :
    lengthAdded .zero (.ofPairs "duration" [("amount", some "1.5"), ("unit", some "days")]) =
        .ok ⟨129600000000000⟩ ∧
      shifted ⟨⟨1360643400, 0⟩, 0⟩
          (.ofPairs "in offset" [("amount", some "1.5"), ("unit", some "days")]) =
        .ok ⟨⟨1360773000, 0⟩, 0⟩ := by
  have hwrites : Decimal.Writes "1.5" (3 / 2) := by
    have hdigits : Decimal.ofDigits ['1', '5'] = 15 := rfl
    refine ⟨['1'], ['5'], by simp, by decide, Or.inr (by decide), ?_⟩
    norm_num [hdigits]
  have hwhole : (3 / 2 : ℚ) * Duration.day.nanos = (129600000000000 : ℕ) := by
    norm_num [Duration.day, Duration.perSecond]
  have hrepresentable : Binary64.Representable (3 / 2) :=
    ⟨3, -1, by norm_num, by decide, by norm_num⟩
  have hunit : Grain.day.fixedLength? = some .day := rfl
  obtain ⟨x, v, -, -, -, added, moved, -, -, -, -, -, -, hexact, hlength, hshift⟩ :=
    lengths_of_amount hwrites hunit hwhole (by norm_num)
  obtain ⟨rfl, rfl⟩ := hexact hrepresentable
  rw [hlength _ _ (by decide +kernel) (by decide +kernel),
    hshift _ _ (by decide +kernel) (by decide +kernel) (by decide +kernel)]
  exact ⟨by decide +kernel, by decide +kernel⟩

/-- **A nanosecond is lost** of 8.2 seconds, which are read as a little less than that and cut off.
Of 8.2 days none is lost where they are multiplied at once, and one is where the days are counted
first. -/
theorem length_cut_short :
    Decimal.Writes "8.2" (41 / 5) ∧
      (41 / 5 : ℚ) * Duration.second.nanos = (8200000000 : ℕ) ∧ 8200000000 < 2 ^ 53 ∧
      lengthAdded .zero (.ofPairs "duration" [("amount", some "8.2"), ("unit", some "seconds")]) =
        .ok ⟨8199999999⟩ ∧
      (41 / 5 : ℚ) * Duration.day.nanos = (708480000000000 : ℕ) ∧ 708480000000000 < 2 ^ 53 ∧
      lengthAdded .zero (.ofPairs "duration" [("amount", some "8.2"), ("unit", some "days")]) =
        .ok ⟨708480000000000⟩ ∧
      shifted ⟨⟨0, 0⟩, 0⟩
          (.ofPairs "in offset" [("amount", some "8.2"), ("unit", some "days")]) =
        .ok ⟨⟨708479, 999999999⟩, 0⟩ := by
  have hwrites : Decimal.Writes "8.2" (41 / 5) := by
    have hdigits : Decimal.ofDigits ['8', '2'] = 82 := rfl
    refine ⟨['8'], ['2'], by simp, by decide, Or.inr (by decide), ?_⟩
    norm_num [hdigits]
  have hseconds : (41 / 5 : ℚ) * Duration.second.nanos = (8200000000 : ℕ) := by
    norm_num [Duration.second, Duration.perSecond]
  have hdays : (41 / 5 : ℚ) * Duration.day.nanos = (708480000000000 : ℕ) := by
    norm_num [Duration.day, Duration.perSecond]
  exact ⟨hwrites, hseconds, by norm_num, by decide +kernel, hdays, by norm_num,
    by decide +kernel, by decide +kernel⟩

end Timephrase.English
