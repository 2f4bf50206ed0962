/-!
# Durations

A duration is a signed number of nanoseconds.  Its range is that of a signed 64-bit number of
milliseconds, the same on both sides of zero; arithmetic that would leave the range has no result.

## Main definitions

* `Duration`: the number of nanoseconds
* `Duration.InRange`, `Duration.checked?`: the range, and the one gate into it
* `Duration.add?`: addition
* `Duration.wholeSeconds`, `Duration.subsecond`: the two parts, both with the duration's sign
* `Duration.word?`: the nanoseconds, where a signed 64-bit word holds them
-/

namespace Timephrase

/-- A signed length of time. -/
structure Duration where
  nanos : Int
  deriving DecidableEq, Repr, Inhabited

namespace Duration

/-- The nanoseconds of one second. -/
def perSecond : Nat := 1000000000

/-- The nanoseconds of the longest duration. -/
def limit : Int := 9223372036854775807 * 1000000

/-- A duration within the limit, on either side of zero. -/
def InRange (d : Duration) : Prop := -limit ≤ d.nanos ∧ d.nanos ≤ limit

instance (d : Duration) : Decidable d.InRange := inferInstanceAs (Decidable (_ ∧ _))

/-- The duration of `n` nanoseconds, if it is in range. -/
def checked? (n : Int) : Option Duration :=
  if (⟨n⟩ : Duration).InRange then some ⟨n⟩ else none

/-- No time at all. -/
def zero : Duration := ⟨0⟩

/-- One second. -/
def second : Duration := ⟨perSecond⟩

/-- One minute. -/
def minute : Duration := ⟨60 * perSecond⟩

/-- One hour. -/
def hour : Duration := ⟨3600 * perSecond⟩

/-- One day of twenty-four hours. -/
def day : Duration := ⟨86400 * perSecond⟩

/-- Seven days. -/
def week : Duration := ⟨604800 * perSecond⟩

/-- The duration of `n` seconds, if it is in range. -/
def seconds? (n : Int) : Option Duration := checked? (n * perSecond)

/-- The sum of two durations, if it is in range. -/
def add? (a b : Duration) : Option Duration := checked? (a.nanos + b.nanos)

/-- The length in the other direction. -/
def neg (d : Duration) : Duration := ⟨-d.nanos⟩

/-- `n` times a duration, if it is in range. -/
def times? (d : Duration) (n : Int) : Option Duration := checked? (n * d.nanos)

/-- The whole seconds, cut off toward zero. -/
def wholeSeconds (d : Duration) : Int := d.nanos.tdiv perSecond

/-- The nanoseconds beyond the whole seconds, with the duration's sign. -/
def subsecond (d : Duration) : Int := d.nanos.tmod perSecond

/-- The number of nanoseconds, where a signed 64-bit word holds it. -/
def word? (d : Duration) : Option Int :=
  if -9223372036854775808 ≤ d.nanos ∧ d.nanos ≤ 9223372036854775807 then some d.nanos else none

theorem checked?_eq_some_iff {n : Int} {d : Duration} :
    checked? n = some d ↔ d.nanos = n ∧ d.InRange := by
  unfold checked?
  split
  · next h =>
    constructor
    · rintro ⟨⟩
      exact ⟨rfl, h⟩
    · rintro ⟨rfl, -⟩
      rfl
  · next h =>
    constructor
    · rintro ⟨⟩
    · rintro ⟨rfl, hd⟩
      exact absurd hd h

theorem nanos_of_checked? {n : Int} {d : Duration} (h : checked? n = some d) : d.nanos = n :=
  (checked?_eq_some_iff.1 h).1

theorem inRange_of_checked? {n : Int} {d : Duration} (h : checked? n = some d) : d.InRange :=
  (checked?_eq_some_iff.1 h).2

/-- The two parts make up the duration. -/
theorem wholeSeconds_add_subsecond (d : Duration) :
    perSecond * d.wholeSeconds + d.subsecond = d.nanos := by
  unfold wholeSeconds subsecond
  exact Int.mul_tdiv_add_tmod d.nanos perSecond

end Duration

end Timephrase
