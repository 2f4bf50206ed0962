import Mathlib.Algebra.Group.Nat.Defs
import Timephrase.Number.Integer
import Timephrase.Proofs.Text.Kind
import Timephrase.Text.Digits

/-!
# Numerals

A number is written in decimal digits, maybe with zeros in front, and read back as what it was.

## Main results

* `Digits.isDigit_of_mem_padded`, `Digits.length_padded`: what a numeral is made of
* `IntegerRange.read_padded`: a numeral is read as its number
-/

namespace Timephrase

/-! ## Writing -/

namespace Digits

variable {width n : Nat}

theorem toList_padded (width n : Nat) : (padded width n).toList =
    List.replicate (width - (Nat.toDigits 10 n).length) '0' ++ Nat.toDigits 10 n := by
  rw [padded, String.toList_append, String.toList_ofList, Nat.toList_repr, ← String.length_toList,
    Nat.toList_repr]

/-- A numeral is made of digits. -/
theorem isDigit_of_mem_padded : ∀ c ∈ (padded width n).toList, c.isDigit = true := by
  intro c hc
  rw [toList_padded] at hc
  rcases List.mem_append.mp hc with hc | hc
  · rw [List.eq_of_mem_replicate hc]
    rfl
  · exact Nat.isDigit_of_mem_toDigits (by decide) (by decide) hc

/-- A numeral has the width asked for if the number needs no more digits. -/
theorem length_padded (hwidth : 0 < width) (hn : n < 10 ^ width) :
    (padded width n).toList.length = width := by
  have hle := (Nat.length_toDigits_le_iff (b := 10) (by decide) hwidth).mpr hn
  rw [toList_padded, List.length_append, List.length_replicate]
  omega

/-- A number below a hundred is written with one or two digits. -/
theorem length_padded_of_lt (hwidth : width = 1 ∨ width = 2) (hn : n < 100) :
    (padded width n).toList.length = 1 ∨ (padded width n).toList.length = 2 := by
  by_cases hten : n < 10
  · rcases hwidth with rfl | rfl
    · exact Or.inl (length_padded (by decide) hten)
    · exact Or.inr (length_padded (by decide) hn)
  · have hle := (Nat.length_toDigits_le_iff (b := 10) (k := 2) (by decide) (by decide)).mpr hn
    have hlt : ¬ (Nat.toDigits 10 n).length ≤ 1 := by
      rw [Nat.length_toDigits_le_iff (by decide) (by decide)]
      exact hten
    rw [toList_padded, List.length_append, List.length_replicate]
    omega

/-- The digits of a numeral have the value of its number. -/
theorem ofDigitChars_padded (width n : Nat) :
    Nat.ofDigitChars 10 (padded width n).toList 0 = n := by
  rw [toList_padded, Nat.ofDigitChars_append, Nat.ofDigitChars_replicate_zero, Nat.mul_zero,
    Nat.ofDigitChars_ten_toDigits]

/-- A numeral in small letters is the numeral. -/
theorem lowercase_padded (width n : Nat) : Lowercase.lowercase (padded width n) = padded width n := by
  rw [← String.ofList_toList (s := padded width n)]
  refine Lowercase.lowercase_eq_self fun c hc => ?_
  have hbounds := Ascii.isDigit_iff.mp (isDigit_of_mem_padded c hc)
  refine ⟨by omega, ?_⟩
  rw [Bool.eq_false_iff, ne_eq, Ascii.isUpper_iff]
  omega

end Digits

/-! ## Reading -/

namespace IntegerRange

variable {range : IntegerRange} {n : Nat} {cs : List Char}

theorem le_ofDigitChars (cs : List Char) (n : Nat) : n ≤ Nat.ofDigitChars 10 cs n := by
  rw [Nat.ofDigitChars_eq_ofDigitChars_zero]
  exact Nat.le_add_right_of_le (Nat.le_mul_of_pos_left n (Nat.pow_pos (by decide)))

/-- Digits are read as their value if that lies in the range. -/
theorem readDigits_eq (hdigits : ∀ c ∈ cs, c.isDigit = true) (hleast : range.least ≤ 0)
    (hgreatest : (Nat.ofDigitChars 10 cs n : Int) ≤ range.greatest) :
    range.readDigits false n cs = .ok (Nat.ofDigitChars 10 cs n : Int) := by
  induction cs generalizing n with
  | nil => rfl
  | cons c cs ih =>
    obtain ⟨hc, hdigits⟩ := List.forall_mem_cons.mp hdigits
    rw [Nat.ofDigitChars_cons] at hgreatest ⊢
    have hlow := (Ascii.isDigit_iff.mp hc).1
    have hzero : '0'.toNat = 0x30 := rfl
    have hnext : 10 * (n : Int) + ((c.toNat : Int) - '0'.toNat) =
        ((10 * n + (c.toNat - '0'.toNat) : Nat) : Int) := by
      omega
    -- What is read so far is no more than all of it, so that no digit leaves the range.
    have hle := le_ofDigitChars cs (10 * n + (c.toNat - '0'.toNat))
    rw [readDigits, if_pos hc]
    dsimp only
    rw [if_neg Bool.false_ne_true, hnext, if_neg (by omega), if_neg (by omega),
      ih hdigits hgreatest]

/-- Digits are read as a whole text. -/
theorem read_eq_readDigits {text : String} (hne : text.toList ≠ [])
    (hdigits : ∀ c ∈ text.toList, c.isDigit = true) :
    range.read text = range.readDigits false 0 text.toList := by
  rw [read]
  split
  · next h => exact absurd h hne
  · next h =>
    rw [h] at hdigits
    cases hdigits '+' List.mem_cons_self
  · next h =>
    rw [h] at hdigits
    cases hdigits '-' List.mem_cons_self
  · next h =>
    rw [h] at hdigits
    cases hdigits '+' List.mem_cons_self
  · next h =>
    rw [h] at hdigits
    cases hdigits '-' List.mem_cons_self
  · rfl

/-- **A numeral is read as its number**, if that lies in the range. -/
theorem read_padded {width : Nat} (hleast : range.least ≤ 0) (hn : (n : Int) ≤ range.greatest) :
    range.read (Digits.padded width n) = .ok (n : Int) := by
  have hvalue := Digits.ofDigitChars_padded width n
  have hne : (Digits.padded width n).toList ≠ [] := by
    rw [Digits.toList_padded]
    exact List.append_ne_nil_of_right_ne_nil _ Nat.toDigits_ne_nil
  have hread : range.readDigits false (0 : Nat) (Digits.padded width n).toList = _ :=
    readDigits_eq Digits.isDigit_of_mem_padded hleast (hvalue.symm ▸ hn)
  rw [hvalue] at hread
  rw [read_eq_readDigits hne Digits.isDigit_of_mem_padded]
  exact hread

end IntegerRange

end Timephrase
