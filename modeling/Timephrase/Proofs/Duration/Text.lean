import Mathlib.Data.List.DropRight
import Mathlib.Data.Rat.Cast.Order
import Mathlib.Tactic.NormNum
import Timephrase.Duration.Text
import Timephrase.Proofs.Text.Numeral

/-!
# Durations can be read back

A duration whose nanoseconds fit a signed 64-bit word is written in clock units without any loss.
The hours, the minutes and the seconds with their fraction make up its length, and a reader that
knows nothing but the units finds it again in the text.  A longer duration is written as its whole
seconds.

## Main definitions

* `Duration.ClockForm`: hours, minutes, seconds and fraction, as they are written
* `Duration.ClockForm.Shows`: the fields are those of a number of nanoseconds
* `Duration.secondsOf`: the seconds that a text in clock units says

## Main results

* `Duration.ClockForm.secondsOf_text`: the fields are read from their text
* `Duration.ClockForm.shows_ofNanos`: the fields that are written
* `Duration.text_read_back`: what a duration is written as
-/

namespace Timephrase

/-! ## Fractions -/

namespace Digits

/-- The number that digits write after a point. -/
def afterPoint (ds : List Char) : ℚ := Nat.ofDigitChars 10 ds 0 / 10 ^ ds.length

/-- Zeros at the end of a fraction do not count. -/
theorem afterPoint_append_zeros (ds : List Char) (n : Nat) :
    afterPoint (ds ++ List.replicate n '0') = afterPoint ds := by
  have hten : (10 : ℚ) ^ n ≠ 0 := pow_ne_zero n (by norm_num)
  rw [afterPoint, afterPoint, Nat.ofDigitChars_append, Nat.ofDigitChars_replicate_zero,
    List.length_append, List.length_replicate, pow_add, Nat.cast_mul, Nat.cast_pow, Nat.cast_ofNat,
    mul_comm, mul_div_mul_right _ _ hten]

end Digits

namespace Duration

variable {nanos : Nat}

theorem toList_fractionDigits (nanos : Nat) : (fractionDigits nanos).toList =
    (Digits.padded 9 nanos).toList.rdropWhile (· == '0') := String.toList_ofList

/-- The digits of a fraction with the zeros that have been left out. -/
theorem exists_fractionDigits_append (nanos : Nat) : ∃ zeros,
    (Digits.padded 9 nanos).toList = (fractionDigits nanos).toList ++ List.replicate zeros '0' := by
  have hzeros : ∀ c ∈ (Digits.padded 9 nanos).toList.rtakeWhile (· == '0'), c = '0' := by
    intro c hc
    simpa using List.mem_rtakeWhile_imp hc
  refine ⟨((Digits.padded 9 nanos).toList.rtakeWhile (· == '0')).length, ?_⟩
  rw [toList_fractionDigits, ← List.eq_replicate_of_mem hzeros, List.rdropWhile_append_rtakeWhile]

theorem isDigit_of_mem_fractionDigits : ∀ c ∈ (fractionDigits nanos).toList, c.isDigit = true := by
  intro c hc
  obtain ⟨zeros, hpadded⟩ := exists_fractionDigits_append nanos
  have hdigits : ∀ c ∈ (Digits.padded 9 nanos).toList, c.isDigit = true :=
    Digits.isDigit_of_mem_padded
  rw [hpadded] at hdigits
  exact hdigits c (List.mem_append_left _ hc)

/-- The nanoseconds of a fraction of a second have nine digits. -/
theorem length_padded_of_lt (h : nanos < perSecond) :
    (Digits.padded 9 nanos).toList.length = 9 := by
  have hnine : nanos < 10 ^ 9 := by
    rw [perSecond] at h
    omega
  exact Digits.length_padded (by decide) hnine

theorem length_fractionDigits_le (h : nanos < perSecond) :
    (fractionDigits nanos).toList.length ≤ 9 := by
  obtain ⟨zeros, hpadded⟩ := exists_fractionDigits_append nanos
  have hlength := length_padded_of_lt h
  rw [hpadded, List.length_append] at hlength
  omega

/-- A fraction does not end in a zero. -/
theorem ne_zero_of_getLast?_fractionDigits :
    ∀ c ∈ (fractionDigits nanos).toList.getLast?, c ≠ '0' := by
  intro c hc
  rw [toList_fractionDigits] at hc
  obtain ⟨hne, hlast⟩ := List.mem_getLast?_eq_getLast hc
  have hnot := List.rdropWhile_last_not (· == '0') _ hne
  rw [← hlast] at hnot
  exact fun hzero => hnot (beq_iff_eq.mpr hzero)

/-- **The fraction of a second** that is written. -/
theorem afterPoint_fractionDigits (h : nanos < perSecond) :
    Digits.afterPoint (fractionDigits nanos).toList = nanos / perSecond := by
  obtain ⟨zeros, hpadded⟩ := exists_fractionDigits_append nanos
  rw [← Digits.afterPoint_append_zeros _ zeros, ← hpadded, Digits.afterPoint,
    Digits.ofDigitChars_padded, length_padded_of_lt h, perSecond]
  norm_num

theorem fractionDigits_eq_nil_iff (h : nanos < perSecond) :
    (fractionDigits nanos).toList = [] ↔ nanos = 0 := by
  constructor
  · intro hnil
    have hvalue := afterPoint_fractionDigits h
    rw [hnil, perSecond] at hvalue
    have hzero : (nanos : ℚ) = 0 := by simpa [Digits.afterPoint] using hvalue.symm
    exact_mod_cast hzero
  · rintro rfl
    decide

/-! ## Fields -/

/-- The fields of a length of time as they are written: a sign, hours and minutes if they are there,
seconds, and the digits of a fraction, if there are any. -/
structure ClockForm where
  negative : Bool
  hours : Option Nat
  minutes : Option Nat
  seconds : Nat
  fraction : List Char
  deriving DecidableEq, Repr

namespace ClockForm

/-- A whole number with its unit, if it is there. -/
def field (unit : Char) : Option Nat → String
  | none => ""
  | some n => n.repr.push unit

/-- The digits of a fraction after a point, if there are any. -/
def pointed (digits : List Char) : String :=
  if digits = [] then "" else "." ++ String.ofList digits

/-- The fields one after another. -/
def text (f : ClockForm) : String :=
  (if f.negative then "-" else "") ++ field 'h' f.hours ++ field 'm' f.minutes ++
    (f.seconds.repr ++ pointed f.fraction ++ "s")

/-- The seconds that the fields make up, read as exact decimals, without the sign. -/
def magnitude (f : ClockForm) : ℚ :=
  f.hours.getD 0 * 3600 + f.minutes.getD 0 * 60 + (f.seconds + Digits.afterPoint f.fraction)

/-- The fields are those of a number of nanoseconds: there are hours from an hour on and minutes
from a minute on, minutes and seconds are less than sixty, the fraction has nine digits at most and
does not end in a zero, and altogether they make up the number. -/
structure Shows (f : ClockForm) (nanos : Int) : Prop where
  negative_iff : f.negative = true ↔ nanos < 0
  hours_iff : f.hours.isSome = true ↔ 3600 * perSecond ≤ nanos.natAbs
  minutes_iff : f.minutes.isSome = true ↔ 60 * perSecond ≤ nanos.natAbs
  minutes_lt : ∀ m ∈ f.minutes, m < 60
  seconds_lt : f.seconds < 60
  isDigit_of_mem_fraction : ∀ c ∈ f.fraction, c.isDigit = true
  length_fraction_le : f.fraction.length ≤ 9
  ne_zero_of_getLast? : ∀ c ∈ f.fraction.getLast?, c ≠ '0'
  magnitude_eq : f.magnitude = nanos.natAbs / perSecond

/-- The fields of a number of nanoseconds. -/
def ofNanos (nanos : Int) : ClockForm where
  negative := nanos < 0
  hours := if 3600 * perSecond ≤ nanos.natAbs then some (nanos.natAbs / 3600000000000) else none
  minutes :=
    if 60 * perSecond ≤ nanos.natAbs then some (nanos.natAbs / 60000000000 % 60) else none
  seconds := nanos.natAbs / perSecond % 60
  fraction := (fractionDigits (nanos.natAbs % perSecond)).toList

/-- Hours are left out where there are none. -/
theorem hours_getD_ofNanos (nanos : Int) :
    (ofNanos nanos).hours.getD 0 = nanos.natAbs / 3600000000000 := by
  rw [ofNanos, perSecond]
  by_cases hhour : 3600 * 1000000000 ≤ nanos.natAbs
  · rw [if_pos hhour, Option.getD_some]
  · rw [if_neg hhour, Option.getD_none]
    omega

/-- Minutes are left out where there are neither hours nor minutes. -/
theorem minutes_getD_ofNanos (nanos : Int) :
    (ofNanos nanos).minutes.getD 0 = nanos.natAbs / 60000000000 % 60 := by
  rw [ofNanos, perSecond]
  by_cases hminute : 60 * 1000000000 ≤ nanos.natAbs
  · rw [if_pos hminute, Option.getD_some]
  · rw [if_neg hminute, Option.getD_none]
    omega

/-- The fields make up the number. -/
theorem magnitude_ofNanos (nanos : Int) :
    (ofNanos nanos).magnitude = nanos.natAbs / perSecond := by
  have hlt : nanos.natAbs % perSecond < perSecond := Nat.mod_lt _ (by decide)
  have hsum : nanos.natAbs = (nanos.natAbs / 3600000000000 * 3600 +
      nanos.natAbs / 60000000000 % 60 * 60 + nanos.natAbs / perSecond % 60) * perSecond +
        nanos.natAbs % perSecond := by
    rw [perSecond]
    omega
  have hper : (perSecond : ℚ) ≠ 0 := by
    rw [perSecond]
    norm_num
  have hseconds : (ofNanos nanos).seconds = nanos.natAbs / perSecond % 60 := by
    rw [ofNanos]
  have hfraction : Digits.afterPoint (ofNanos nanos).fraction =
      (nanos.natAbs % perSecond : Nat) / perSecond := by
    rw [ofNanos, afterPoint_fractionDigits hlt]
  rw [magnitude, hours_getD_ofNanos, minutes_getD_ofNanos, hseconds, hfraction,
    eq_div_iff hper, ← add_assoc, add_mul, div_mul_cancel₀ _ hper]
  exact_mod_cast hsum.symm

/-- **The fields of a number of nanoseconds** are what they should be. -/
theorem shows_ofNanos (nanos : Int) : (ofNanos nanos).Shows nanos := by
  have hlt : nanos.natAbs % perSecond < perSecond := Nat.mod_lt _ (by decide)
  have hfraction : (ofNanos nanos).fraction =
      (fractionDigits (nanos.natAbs % perSecond)).toList := by
    rw [ofNanos]
  constructor
  · simp [ofNanos]
  · simp [ofNanos]
  · simp [ofNanos]
  · intro m hm
    simp only [ofNanos, Option.mem_def] at hm
    split at hm
    · rw [← Option.some.inj hm]
      exact Nat.mod_lt _ (by decide)
    · cases hm
  · rw [ofNanos]
    exact Nat.mod_lt _ (by decide)
  · rw [hfraction]
    exact isDigit_of_mem_fractionDigits
  · rw [hfraction]
    exact length_fractionDigits_le hlt
  · rw [hfraction]
    exact ne_zero_of_getLast?_fractionDigits
  · exact magnitude_ofNanos nanos

theorem secondsText_eq (seconds : Nat) (h : nanos < perSecond) :
    secondsText seconds nanos = seconds.repr ++ pointed (fractionDigits nanos).toList := by
  rw [secondsText, pointed]
  by_cases hzero : nanos = 0
  · rw [if_pos hzero, if_pos ((fractionDigits_eq_nil_iff h).mpr hzero), String.append_empty]
  · rw [if_neg hzero, if_neg fun hnil => hzero ((fractionDigits_eq_nil_iff h).mp hnil),
      String.ofList_toList, String.append_assoc]

/-- A number of nanoseconds is written field by field. -/
theorem text_ofNanos (nanos : Int) :
    (ofNanos nanos).text = (if nanos < 0 then "-" else "") ++ clockText nanos.natAbs := by
  have hlt : nanos.natAbs % perSecond < perSecond := Nat.mod_lt _ (by decide)
  have hsign : (if decide (nanos < 0) = true then "-" else "") = if nanos < 0 then "-" else "" :=
    if_congr decide_eq_true_iff rfl rfl
  have hsome : ∀ unit (n : Nat), field unit (some n) = n.repr ++ String.singleton unit := by
    intro unit n
    rw [field, String.push_eq_append]
  have hnone : ∀ unit, field unit none = "" := fun _ => rfl
  have hh : String.singleton 'h' = "h" := rfl
  have hm : String.singleton 'm' = "m" := rfl
  rw [text, ofNanos, hsign, clockText, secondsText_eq _ hlt]
  -- Where there are hours, minutes are written too, even none of them.
  by_cases hhour : 3600 * perSecond ≤ nanos.natAbs
  · have hminute : 60 * perSecond ≤ nanos.natAbs := Nat.le_trans (by decide) hhour
    have hpos : 0 < nanos.natAbs / 3600000000000 := Nat.div_pos hhour (by decide)
    simp only [if_pos hhour, if_pos hminute, if_pos hpos, hsome, hh, hm,
      String.append_assoc]
  · have hzero : ¬ 0 < nanos.natAbs / 3600000000000 := by
      rw [perSecond] at hhour
      omega
    by_cases hminute : 60 * perSecond ≤ nanos.natAbs
    · have hpos : 0 < nanos.natAbs / 60000000000 % 60 := by
        rw [perSecond] at hhour hminute
        omega
      simp only [if_neg hhour, if_pos hminute, if_neg hzero, if_pos hpos, hnone, hsome, hm,
        String.append_assoc, String.empty_append]
    · have hnot : ¬ 0 < nanos.natAbs / 60000000000 % 60 := by
        rw [perSecond] at hminute
        omega
      simp only [if_neg hhour, if_neg hminute, if_neg hzero, if_neg hnot, hnone,
        String.append_assoc, String.empty_append]

end ClockForm

/-! ## Reading -/

/-- What has been read of a text in clock units: whether there was a sign, the seconds of the fields
that have ended, the digits since then, and how many of them stand after a point, if there was
one. -/
structure Reading where
  negative : Bool
  ended : ℚ
  digits : Nat
  places : Option Nat
  deriving DecidableEq, Repr

namespace Reading

/-- Nothing has been read. -/
def start : Reading := ⟨false, 0, 0, none⟩

/-- The field that has been read ends with its unit, of so many seconds. -/
def close (r : Reading) (seconds : ℚ) : Reading :=
  ⟨r.negative, r.ended + r.digits / 10 ^ r.places.getD 0 * seconds, 0, none⟩

/-- One more character is read. -/
def next (r : Reading) (c : Char) : Reading :=
  match c with
  | '-' => { r with negative := true }
  | 'h' => r.close 3600
  | 'm' => r.close 60
  | 's' => r.close 1
  | '.' => { r with places := some 0 }
  | c => { r with digits := 10 * r.digits + (c.toNat - '0'.toNat), places := r.places.map (· + 1) }

theorem next_of_isDigit {c : Char} (h : c.isDigit = true) (r : Reading) :
    r.next c = { r with
      digits := 10 * r.digits + (c.toNat - '0'.toNat), places := r.places.map (· + 1) } := by
  have hother : ∀ d : Char, d.isDigit = false → c = d → False := by
    rintro d hd rfl
    rw [h] at hd
    cases hd
  rw [next]
  all_goals exact hother _ rfl

/-- Digits are read one after another. -/
theorem foldl_digits {ds : List Char} (h : ∀ c ∈ ds, c.isDigit = true) (r : Reading) :
    ds.foldl next r = { r with
      digits := Nat.ofDigitChars 10 ds r.digits, places := r.places.map (· + ds.length) } := by
  induction ds generalizing r with
  | nil => simp
  | cons c ds ih =>
    obtain ⟨hc, h⟩ := List.forall_mem_cons.mp h
    rw [List.foldl_cons, next_of_isDigit hc, ih h, Nat.ofDigitChars_cons, Option.map_map]
    simp [Function.comp_def, Nat.add_comm, Nat.add_left_comm]

/-- A field with its unit is read as so many seconds. -/
theorem foldl_field {unit : Char} {seconds : ℚ}
    (hunit : ∀ r : Reading, r.next unit = r.close seconds) (negative : Bool) (ended : ℚ)
    (n? : Option Nat) :
    (ClockForm.field unit n?).toList.foldl next ⟨negative, ended, 0, none⟩ =
      ⟨negative, ended + n?.getD 0 * seconds, 0, none⟩ := by
  cases n? with
  | none => simp [ClockForm.field]
  | some n =>
    have hdigits : ∀ c ∈ Nat.toDigits 10 n, c.isDigit = true :=
      fun c hc => Nat.isDigit_of_mem_toDigits (by decide) (by decide) hc
    rw [ClockForm.field, String.toList_push, Nat.toList_repr, List.foldl_append,
      foldl_digits hdigits, Nat.ofDigitChars_ten_toDigits, List.foldl_cons, hunit]
    simp [close]

/-- The seconds are read with their fraction. -/
theorem foldl_seconds {fraction : List Char} (h : ∀ c ∈ fraction, c.isDigit = true)
    (negative : Bool) (ended : ℚ) (n : Nat) :
    (n.repr ++ ClockForm.pointed fraction ++ "s").toList.foldl next ⟨negative, ended, 0, none⟩ =
      ⟨negative, ended + (n + Digits.afterPoint fraction), 0, none⟩ := by
  have hdigits : ∀ c ∈ Nat.toDigits 10 n, c.isDigit = true :=
    fun c hc => Nat.isDigit_of_mem_toDigits (by decide) (by decide) hc
  rw [String.toList_append, String.toList_append, Nat.toList_repr, List.foldl_append,
    List.foldl_append, foldl_digits hdigits, Nat.ofDigitChars_ten_toDigits, ClockForm.pointed]
  by_cases hfraction : fraction = []
  · rw [if_pos hfraction, hfraction]
    simp [next, close, Digits.afterPoint]
  · have hten : (10 : ℚ) ^ fraction.length ≠ 0 := pow_ne_zero _ (by norm_num)
    have hpoint : ("." ++ String.ofList fraction).toList = '.' :: fraction := by
      rw [String.toList_append, String.toList_ofList, String.toList_ofList]
      rfl
    -- The digits after the point go on from those before it.
    have hvalue : (Nat.ofDigitChars 10 fraction n : ℚ) / 10 ^ fraction.length =
        n + Digits.afterPoint fraction := by
      rw [Nat.ofDigitChars_eq_ofDigitChars_zero, Digits.afterPoint, Nat.cast_add, Nat.cast_mul,
        Nat.cast_pow, Nat.cast_ofNat, add_div, mul_div_cancel_left₀ _ hten]
    rw [if_neg hfraction, hpoint, List.foldl_cons, next, foldl_digits h]
    simp [next, close, hvalue]

end Reading

/-- The seconds that a text in clock units says. -/
def secondsOf (text : String) : ℚ :=
  let r := text.toList.foldl Reading.next .start
  if r.negative then -r.ended else r.ended

/-- **The fields are read from their text.** -/
theorem ClockForm.secondsOf_text {f : ClockForm} (h : ∀ c ∈ f.fraction, c.isDigit = true) :
    secondsOf f.text = if f.negative then -f.magnitude else f.magnitude := by
  have hsign : (if f.negative then "-" else "").toList.foldl Reading.next .start =
      ⟨f.negative, 0, 0, none⟩ := by
    cases f.negative with
    | true => rfl
    | false => rfl
  have hread : f.text.toList.foldl Reading.next .start = ⟨f.negative, f.magnitude, 0, none⟩ := by
    rw [text, String.toList_append, String.toList_append, String.toList_append, List.foldl_append,
      List.foldl_append, List.foldl_append, hsign, Reading.foldl_field fun _ => rfl,
      Reading.foldl_field fun _ => rfl, Reading.foldl_seconds h, magnitude, zero_add]
  rw [secondsOf, hread]

/-! ## Durations -/

/-- The nanoseconds of a duration fit a signed 64-bit word. -/
def FitsWord (d : Duration) : Prop := -2 ^ 63 ≤ d.nanos ∧ d.nanos < 2 ^ 63

instance (d : Duration) : Decidable d.FitsWord := inferInstanceAs (Decidable (_ ∧ _))

variable {d : Duration}

theorem word?_of_fitsWord (h : d.FitsWord) : d.word? = some d.nanos :=
  if_pos ⟨h.1, Int.le_of_lt_add_one h.2⟩

theorem word?_of_not_fitsWord (h : ¬ d.FitsWord) : d.word? = none :=
  if_neg fun hword => h ⟨hword.1, Int.lt_add_one_of_le hword.2⟩

theorem text_of_fitsWord (h : d.FitsWord) : d.text = (ClockForm.ofNanos d.nanos).text := by
  rw [text, word?_of_fitsWord h, ClockForm.text_ofNanos]
  by_cases hzero : d.nanos = 0
  · rw [hzero]
    show "0s" = (if (0 : Int) < 0 then "-" else "") ++ clockText (Int.natAbs 0)
    decide
  · exact if_neg hzero

theorem signedText_eq_toString (n : Int) : signedText n = toString n := by
  cases n with
  | ofNat n => rfl
  | negSucc n =>
    rw [signedText, if_pos (Int.negSucc_lt_zero n)]
    rfl

/-- **A text in clock units says the length of the duration.** -/
theorem secondsOf_text (h : d.FitsWord) : secondsOf d.text = d.nanos / perSecond := by
  have hshows := ClockForm.shows_ofNanos d.nanos
  rw [text_of_fitsWord h, ClockForm.secondsOf_text hshows.isDigit_of_mem_fraction,
    hshows.magnitude_eq]
  by_cases hnegative : d.nanos < 0
  · have habs : (d.nanos.natAbs : ℚ) = -d.nanos := by
      rw [Nat.cast_natAbs, abs_of_neg hnegative, Int.cast_neg]
    rw [if_pos (hshows.negative_iff.mpr hnegative), habs, neg_div, neg_neg]
  · have habs : (d.nanos.natAbs : ℚ) = d.nanos := by
      rw [Nat.cast_natAbs, abs_of_nonneg (Int.not_lt.mp hnegative)]
    rw [if_neg fun hf => hnegative (hshows.negative_iff.mp hf), habs]

/-- **A duration can be read back** from its text if its nanoseconds fit a signed 64-bit word.  No
time at all is `0s`; any other such duration is written as a sign for a negative one, hours and
minutes from an hour on, minutes alone from a minute on, and seconds with the fraction that there
is, which make up its length exactly.  The length is read from the text, so that no two such
durations are written alike.  A longer duration is written as its whole seconds, cut off toward
zero. -/
theorem text_read_back (d : Duration) :
    (d.FitsWord →
      (d.nanos = 0 → d.text = "0s") ∧
      (d.nanos ≠ 0 → ∃ f : ClockForm, f.Shows d.nanos ∧ d.text = f.text) ∧
      secondsOf d.text = d.nanos / perSecond ∧
      ∀ d' : Duration, d'.FitsWord → d'.text = d.text → d' = d) ∧
    (¬ d.FitsWord → d.text = toString (d.nanos.tdiv perSecond) ++ "s") := by
  constructor
  · intro h
    refine ⟨fun hzero => ?_, fun _ => ?_, secondsOf_text h, fun d' h' hsame => ?_⟩
    · rw [text, word?_of_fitsWord h, hzero]
      rfl
    · exact ⟨.ofNanos d.nanos, ClockForm.shows_ofNanos d.nanos, text_of_fitsWord h⟩
    · have hper : (perSecond : ℚ) ≠ 0 := by
        rw [perSecond]
        norm_num
      have hlength : (d'.nanos : ℚ) / perSecond = d.nanos / perSecond := by
        rw [← secondsOf_text h', ← secondsOf_text h, hsame]
      have hnanos : (d'.nanos : ℚ) = d.nanos := (div_left_inj' hper).mp hlength
      exact congrArg Duration.mk (by exact_mod_cast hnanos)
  · intro h
    rw [text, word?_of_not_fitsWord h, ← signedText_eq_toString]
    rfl

/-- The least word of nanoseconds is some two million hours before, and one nanosecond further a
duration is written in whole seconds. -/
theorem text_of_least_word :
    (⟨-2 ^ 63⟩ : Duration).text = "-2562047h47m16.854775808s" ∧
    (∃ f : ClockForm, f.Shows (-2 ^ 63) ∧ (⟨-2 ^ 63⟩ : Duration).text = f.text) ∧
    secondsOf "-2562047h47m16.854775808s" = ((-2 ^ 63 : Int) : ℚ) / perSecond ∧
    (⟨-2 ^ 63 - 1⟩ : Duration).text = "-9223372036s" := by
  obtain ⟨hword, -⟩ := text_read_back ⟨-2 ^ 63⟩
  obtain ⟨-, hform, hread, -⟩ := hword (by decide)
  obtain ⟨-, hlong⟩ := text_read_back ⟨-2 ^ 63 - 1⟩
  have htext : (⟨-2 ^ 63⟩ : Duration).text = "-2562047h47m16.854775808s" := by rfl
  rw [htext] at hread
  refine ⟨htext, hform (by decide), hread, ?_⟩
  rw [hlong (by decide)]
  decide

end Duration

end Timephrase
