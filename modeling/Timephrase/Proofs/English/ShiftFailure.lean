import Timephrase.Proofs.English.Amount
import Timephrase.Proofs.English.Length
import Timephrase.Proofs.English.UnitWord
import Timephrase.Proofs.Number.Whole

/-!
# How shifts fail

The rule for shifts reads its amount as a floating-point number, and only then asks of months and
years whether it is whole.  So it refuses an amount of months that is nearest to fractions alone,
and takes one whose fraction is lost.  Whether it refuses an amount is known from the text that is
written.

## Main definitions

* `English.AmountRefused`: amounts that are no number, or not whole where they should be
* `English.ShiftFails`: how a shift by an amount fails

## Main results

* `English.shiftFails`: a shift by an amount fails so
* `English.shift_refused_iff_amount`: the shifts that are found in a text
-/

namespace Timephrase.English

open Pattern Pattern.Node

variable {c : Captures} {written : String} {grain : Grain} {t : Moment} {q : ℚ}

/-! ## Amounts -/

/-- An amount of a unit that is refused: it is no number, or it is one of months or years, and no
whole number is among the numbers of the format that are nearest to it. -/
def AmountRefused (grain : Grain) (written : String) : Prop :=
  (∀ q, ¬Decimal.Writes written q) ∨
    grain.isCalendric = true ∧ ∃ q, Decimal.Writes written q ∧ ∀ n : ℕ, ¬Binary64.RoundsTo q n

/-- An amount of months or years is not so great that it is read as infinite. -/
def AmountBounded (grain : Grain) (written : String) : Prop :=
  grain.isCalendric = true → ∀ q, Decimal.Writes written q → q < Binary64.overflow

/-- How a shift by a written amount of a unit fails.  It fails because the amount is no number, or
because it is one of months or years and was read as no whole number, or because it is out of range.
If the amount is bounded, it is to blame just if it is refused. -/
structure ShiftFails (c : Captures) (grain : Grain) (written : String)
    (result : Except Failure Moment) : Prop where
  cases_of_eq_error : ∀ failure, result = .error failure →
    ((∀ q, ¬Decimal.Writes written q) ∧
        failure = .capture c.rule "amount" written (.number .invalidFloat)) ∨
      (grain.isCalendric = true ∧ (∃ q, Decimal.Writes written q) ∧
        failure = .capture c.rule "amount" written .notWhole) ∨
      failure = .outOfRange c.rule
  amount_iff : AmountBounded grain written →
    ((∃ fault, result = .error (.capture c.rule "amount" written fault)) ↔
      AmountRefused grain written)

/-- An amount of digits alone is not refused, since it is read as a whole number. -/
theorem not_amountRefused_of_digits (hne : written ≠ "")
    (hdigits : ∀ ch ∈ written.toList, ch.isDigit = true) : ¬AmountRefused grain written := by
  rintro (hnone | ⟨-, q, hwrites, hfraction⟩)
  · have hpoints : written.toList.count '.' = 0 := List.count_eq_zero.mpr fun hpoint => by
      cases hdigits '.' hpoint
    have hchars := mt String.toList_eq_nil_iff.mp hne
    obtain ⟨ch, hch⟩ := List.exists_mem_of_ne_nil _ hchars
    obtain ⟨q, hwrites⟩ := (Decimal.exists_writes_iff fun ch hch => Or.inl (hdigits ch hch)).mpr
      ⟨⟨ch, hch, hdigits ch hch⟩, by omega⟩
    exact hnone q hwrites
  · obtain ⟨n, rfl⟩ := hwrites.exists_natCast hdigits
    obtain ⟨m, hm⟩ := Binary64.exists_roundsTo_natCast n
    exact hfraction m hm

/-- A shift by an amount that is no number fails for that. -/
theorem shifted_eq_error (hget : c.get? "amount" = some written) (hne : written ≠ "")
    (hchars : ∀ ch ∈ written.toList, ch.isDigit = true ∨ ch = '.')
    (hnone : ∀ q, ¬Decimal.Writes written q) :
    shifted t c = .error (.capture c.rule "amount" written (.number .invalidFloat)) := by
  rw [shifted, amount_eq_error hget hne hchars hnone]
  rfl

section Shift

variable (hget : c.get? "amount" = some written) (hunit : unit c = .ok grain)

include hget hunit

/-- A shift by an amount is one by the number of the format nearest to it, if that is whole where it
should be. -/
theorem exists_shifted_eq (hwrites : Decimal.Writes written q) :
    ∃ x : Binary64,
      (q < Binary64.overflow → (x.isWhole = true ↔ ∃ n : ℕ, Binary64.RoundsTo q n)) ∧
      shifted t c = if grain.isCalendric && !x.isWhole then
          .error (.capture c.rule "amount" written .notWhole)
        else inRange c (t.shift? x grain) := by
  obtain ⟨d, rfl, hfloat⟩ := hwrites.exists_decimal
  have htext := Captures.text_of_get? hget
  refine ⟨d.nearest false, Decimal.isWhole_nearest_iff, ?_⟩
  rw [shifted, amount_eq_ok hwrites.ne_empty hfloat htext, hunit, Captures.failure, htext]
  rfl

theorem shiftFails_of_writes (hwrites : Decimal.Writes written q) :
    ShiftFails c grain written (shifted t c) := by
  obtain ⟨x, hwhole, hshifted⟩ := exists_shifted_eq (t := t) hget hunit hwrites
  rw [hshifted]
  -- Only months and years that were read as no whole number are refused for it.
  by_cases hfraction : grain.isCalendric = true ∧ x.isWhole = false
  · obtain ⟨hcalendric, hfraction⟩ := hfraction
    rw [hcalendric, hfraction]
    refine ⟨?_, fun hbounded => ?_⟩
    · rintro failure ⟨⟩
      exact Or.inr (Or.inl ⟨hcalendric, ⟨q, hwrites⟩, rfl⟩)
    · have hlt := hbounded hcalendric q hwrites
      refine iff_of_true ⟨.notWhole, rfl⟩ (Or.inr ⟨hcalendric, q, hwrites, fun n hn => ?_⟩)
      rw [(hwhole hlt).mpr ⟨n, hn⟩] at hfraction
      cases hfraction
  · have hcond : (grain.isCalendric && !x.isWhole) = false := by
      simpa using hfraction
    rw [if_neg (Bool.eq_false_iff.mp hcond)]
    refine ⟨fun failure h => Or.inr (Or.inr (eq_outOfRange_of_inRange h)), fun hbounded => ?_⟩
    -- What is left is arithmetic, which is never about the amount.
    refine iff_of_false (fun ⟨fault, h⟩ => ?_) ?_
    · cases eq_outOfRange_of_inRange h
    · rintro (hnone | ⟨hcalendric, q', hwrites', hnot⟩)
      · exact hnone q hwrites
      · obtain rfl := hwrites.unique hwrites'
        have hx : x.isWhole = true := by
          by_contra hx
          exact hfraction ⟨hcalendric, Bool.eq_false_iff.mpr hx⟩
        obtain ⟨n, hn⟩ := (hwhole (hbounded hcalendric q hwrites)).mp hx
        exact hnot n hn

/-- **A shift by an amount fails so**, at whatever time. -/
theorem shiftFails (hne : written ≠ "")
    (hchars : ∀ ch ∈ written.toList, ch.isDigit = true ∨ ch = '.') :
    ShiftFails c grain written (shifted t c) := by
  by_cases hsome : ∃ q, Decimal.Writes written q
  · obtain ⟨q, hwrites⟩ := hsome
    exact shiftFails_of_writes hget hunit hwrites
  · have hnone := not_exists.mp hsome
    rw [shifted_eq_error hget hne hchars hnone]
    refine ⟨?_, fun _ => iff_of_true ⟨_, rfl⟩ (Or.inl hnone)⟩
    rintro failure ⟨⟩
    exact Or.inl ⟨hnone, rfl⟩

end Shift

/-- **How a shift fails is known from the amount that is written.**  For every match of the pattern
for shifts whose unit is in ASCII, the unit is understood, and the amount is a text of digits and
points that writes a number just if it has a digit and at most one point.  At whatever time, the
shift fails because of its amount or because it is out of range.  The amount is to blame just if it
writes no number, or is one of months or years and no whole number is among the numbers of the
format nearest to it; of months and years that is said only of amounts that are not read as
infinite.  An amount of digits alone is not to blame then. -/
theorem shift_refused_iff_amount : ∃ rule f, inOffset = .ok rule ∧ rule.meaning = .time f ∧
    ∀ text, ∀ m ∈ rule.pattern.findAll text,
      (∀ ch ∈ ((Captures.ofMatch rule.name rule.pattern text m).text "unit").toList,
        ch.toNat < 128) →
      ∃ written grain,
        (Captures.ofMatch rule.name rule.pattern text m).get? "amount" = some written ∧
        unit (.ofMatch rule.name rule.pattern text m) = .ok grain ∧
        ((∃ q, Decimal.Writes written q) ↔
          (∃ ch ∈ written.toList, ch.isDigit = true) ∧ written.toList.count '.' ≤ 1) ∧
        ∀ context t,
          ShiftFails (.ofMatch rule.name rule.pattern text m) grain written
            (f context t (.ofMatch rule.name rule.pattern text m)) ∧
          (AmountBounded grain written → (∀ ch ∈ written.toList, ch.isDigit = true) →
            ∀ fault, f context t (.ofMatch rule.name rule.pattern text m) ≠
              .error (.capture "in offset" "amount" written fault)) := by
  refine ⟨inOffsetRule, _, inOffset_eq, rfl, fun text m hm hascii => ?_⟩
  obtain ⟨written, hne, hchars, -, hget⟩ :=
    exists_amount_of_mem_findAll inOffsetRule.name indices_units hm
  obtain ⟨grain, hunit⟩ := (unitsUnderstood_inOffset text).exists_unit_of_ascii hm hascii
  refine ⟨written, grain, hget, hunit, Decimal.exists_writes_iff hchars, fun context t => ?_⟩
  have hfails := shiftFails (t := t) hget hunit hne hchars
  refine ⟨hfails, fun hbounded hdigits fault h => ?_⟩
  exact not_amountRefused_of_digits hne hdigits ((hfails.amount_iff hbounded).mp ⟨fault, h⟩)

/-- One and a half months are refused, as they are read as what they are. -/
theorem shift_refused_of_month_and_half : ∃ rule f m, inOffset = .ok rule ∧
    rule.meaning = .time f ∧ m ∈ rule.pattern.findAll "in 1.5 months" ∧
    (∀ ch ∈ ((Captures.ofMatch rule.name rule.pattern "in 1.5 months" m).text "unit").toList,
      ch.toNat < 128) ∧
    AmountBounded .month "1.5" ∧
    ∃ fault, f halfPastFour halfPastFour.today
        (.ofMatch rule.name rule.pattern "in 1.5 months" m) =
      .error (.capture "in offset" "amount" "1.5" fault) := by
  obtain ⟨rule, f, hrule, hf, hfound⟩ := shift_refused_iff_amount
  obtain rfl : inOffsetRule = rule := Except.ok.inj (inOffset_eq.symm.trans hrule)
  have hm : ⟨⟨0, 13⟩, [(2, ⟨7, 13⟩), (1, ⟨3, 6⟩)]⟩ ∈
      inOffsetRule.pattern.findAll "in 1.5 months" := by
    decide +kernel
  have htext : (Captures.ofMatch inOffsetRule.name inOffsetRule.pattern "in 1.5 months"
      ⟨⟨0, 13⟩, [(2, ⟨7, 13⟩), (1, ⟨3, 6⟩)]⟩).text "unit" = "months" := by
    decide +kernel
  have hascii : ∀ ch ∈ ((Captures.ofMatch inOffsetRule.name inOffsetRule.pattern "in 1.5 months"
      ⟨⟨0, 13⟩, [(2, ⟨7, 13⟩), (1, ⟨3, 6⟩)]⟩).text "unit").toList, ch.toNat < 128 := by
    rw [htext]
    simp
  have hwrites : Decimal.Writes "1.5" (3 / 2) := by
    have hdigits : Decimal.ofDigits ['1', '5'] = 15 := rfl
    refine ⟨['1'], ['5'], by simp, by decide, Or.inr (by decide), ?_⟩
    norm_num [hdigits]
  have hbounded : AmountBounded .month "1.5" := by
    intro _ q hq
    rw [hq.unique hwrites]
    calc (3 / 2 : ℚ) < 2 ^ (1 : ℤ) := by norm_num
      _ ≤ 2 ^ (1000 : ℤ) := zpow_le_zpow_right₀ one_le_two (by decide)
      _ < Binary64.overflow := Binary64.overflow_bounds.1
  -- One and a half is a floating-point number itself, so that nothing rounds it to a whole one.
  have hrefused : AmountRefused .month "1.5" := by
    refine Or.inr ⟨rfl, 3 / 2, hwrites, fun n hn => ?_⟩
    have hexact := hn.eq_of_representable ⟨3, -1, by norm_num, by decide, by norm_num⟩
    have htwice : 2 * n = 3 := by
      have : (2 * n : ℚ) = 3 := by linarith
      exact_mod_cast this
    omega
  obtain ⟨written, grain, hget, hunit, -, hfails⟩ := hfound "in 1.5 months" _ hm hascii
  have hget' : (Captures.ofMatch inOffsetRule.name inOffsetRule.pattern "in 1.5 months"
      ⟨⟨0, 13⟩, [(2, ⟨7, 13⟩), (1, ⟨3, 6⟩)]⟩).get? "amount" = some "1.5" := by
    decide +kernel
  have hunit' : unit (.ofMatch inOffsetRule.name inOffsetRule.pattern "in 1.5 months"
      ⟨⟨0, 13⟩, [(2, ⟨7, 13⟩), (1, ⟨3, 6⟩)]⟩) = .ok .month := by
    decide +kernel
  obtain rfl : "1.5" = written := Option.some.inj (hget'.symm.trans hget)
  obtain rfl : Grain.month = grain := Except.ok.inj (hunit'.symm.trans hunit)
  exact ⟨_, f, _, hrule, hf, hm, hascii, hbounded,
    ((hfails halfPastFour halfPastFour.today).1.amount_iff hbounded).mpr hrefused⟩

/-- **A fraction may be lost.**  A written amount of months that is not whole is taken for one
month, since one is the number nearest to it. -/
theorem shift_accepted_of_lost_fraction : ∃ rule f m q, inOffset = .ok rule ∧
    rule.meaning = .time f ∧
    m ∈ rule.pattern.findAll "in 1.00000000000000000001 months" ∧
    (Captures.ofMatch rule.name rule.pattern "in 1.00000000000000000001 months" m).get? "unit" =
      some "months" ∧
    unit (.ofMatch rule.name rule.pattern "in 1.00000000000000000001 months" m) = .ok .month ∧
    (Captures.ofMatch rule.name rule.pattern "in 1.00000000000000000001 months" m).get? "amount" =
      some "1.00000000000000000001" ∧
    Decimal.Writes "1.00000000000000000001" q ∧ (∀ n : ℤ, q ≠ n) ∧
    f halfPastFour halfPastFour.today
        (.ofMatch rule.name rule.pattern "in 1.00000000000000000001 months" m) =
      .ok ⟨⟨1363046400, 0⟩, 0⟩ := by
  have hdigits : Decimal.ofDigits (['1'] ++ "00000000000000000001".toList) =
      100000000000000000001 := by
    decide +kernel
  refine ⟨inOffsetRule, _, ⟨⟨0, 32⟩, [(2, ⟨26, 32⟩), (1, ⟨3, 25⟩)]⟩,
    100000000000000000001 / 10 ^ 20, inOffset_eq, rfl, by decide +kernel, by decide +kernel,
    by decide +kernel, by decide +kernel, ?_, fun n hn => ?_, by decide +kernel⟩
  · have hchars : (['1'] ++ "00000000000000000001".toList).all Char.isDigit = true := by
      decide +kernel
    refine ⟨['1'], "00000000000000000001".toList, List.all_eq_true.mp hchars, by simp,
      Or.inr (by decide), ?_⟩
    have hlength : "00000000000000000001".toList.length = 20 := by decide
    rw [hdigits, hlength, Nat.cast_ofNat]
  -- No whole number times `10 ^ 20` ends with a one.
  · rw [div_eq_iff (by positivity)] at hn
    have hn : (100000000000000000001 : ℤ) = n * 10 ^ 20 := by exact_mod_cast hn
    omega

end Timephrase.English
