/-!
# Sets of places

Places in a text are numbers.  A set of them is kept in the binary digits of one number, so that it
is quick to ask whether a place has been seen.

## Main definitions

* `Places`: the sets
* `Places.contains`, `Places.insert`: membership, and one more member
-/

namespace Timephrase

/-- A set of places, as the number whose binary digits at those places are one. -/
structure Places where
  digits : Nat
  deriving DecidableEq, Repr, Inhabited

namespace Places

/-- The set without places. -/
def none : Places := ⟨0⟩

/-- Whether a place is in the set. -/
def contains (s : Places) (place : Nat) : Bool := s.digits.testBit place

/-- The set with one more place. -/
def insert (s : Places) (place : Nat) : Places := ⟨s.digits ||| 1 <<< place⟩

@[simp] theorem contains_none (place : Nat) : none.contains place = false := by
  simp [none, contains]

@[simp] theorem contains_insert (s : Places) (place other : Nat) :
    (s.insert place).contains other = (s.contains other || decide (place = other)) := by
  simp [insert, contains, Nat.one_shiftLeft, Nat.testBit_two_pow]

end Places

end Timephrase
