import Timephrase.Number.Integer

/-!
# Numbers on machine words

Sums and products of numbers of a range may lie outside it.  An operation that checks its result
has none then.  One that does not check, on signed words of 64 bits, either ends the whole run or
goes on with another number, which differs from the right one by a multiple of `2 ^ 64`.

## Main definitions

* `IntegerRange.Holds`, `IntegerRange.checked?`: the numbers of a range, and the gate into it
* `Overflow`: what becomes of a number that no word holds
* `Overflow.word?`: the word that an unchecked operation comes to
-/

namespace Timephrase

namespace IntegerRange

variable {range : IntegerRange} {n : Int}

/-- The numbers of a range. -/
def Holds (range : IntegerRange) (n : Int) : Prop := range.least ≤ n ∧ n ≤ range.greatest

instance (range : IntegerRange) (n : Int) : Decidable (range.Holds n) :=
  inferInstanceAs (Decidable (_ ∧ _))

/-- The number, if it is one of the range. -/
def checked? (range : IntegerRange) (n : Int) : Option Int :=
  if range.Holds n then some n else none

theorem holds_signed64_iff :
    signed64.Holds n ↔ -9223372036854775808 ≤ n ∧ n ≤ 9223372036854775807 :=
  Iff.rfl

theorem holds_signed32_iff : signed32.Holds n ↔ -2147483648 ≤ n ∧ n ≤ 2147483647 := Iff.rfl

theorem checked?_of_holds (h : range.Holds n) : range.checked? n = some n := if_pos h

theorem checked?_of_not_holds (h : ¬range.Holds n) : range.checked? n = none := if_neg h

end IntegerRange

/-- What becomes of a number that an unchecked operation comes to and no word holds: the run ends
with it, or it wraps around to a number that a word does hold. -/
inductive Overflow
  | ends
  | wraps
  deriving DecidableEq, Repr

namespace Overflow

variable {o : Overflow} {n : Int}

/-- The word that an unchecked operation comes to whose exact result is `n`. -/
def word? : Overflow → Int → Option Int
  | ends, n => IntegerRange.signed64.checked? n
  | wraps, n => some (n.bmod 18446744073709551616)

/-- A number that a word holds does not overflow. -/
theorem word?_of_holds (h : IntegerRange.signed64.Holds n) : o.word? n = some n := by
  cases o with
  | ends => exact IntegerRange.checked?_of_holds h
  | wraps =>
    rw [IntegerRange.holds_signed64_iff] at h
    rw [word?, Int.bmod_eq_of_le (by omega) (by omega)]

end Overflow

end Timephrase
