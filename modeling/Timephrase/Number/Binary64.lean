/-!
# Binary floating-point numbers of 64 bits

A number is a signed significand below `2 ^ 53` times a power of two, an infinity, or not a number.
Every operation is exact arithmetic on whole numbers followed by one rounding to the nearest number
of the format, a tie going to the even significand.

## Main definitions

* `Binary64`: the numbers
* `Binary64.round`: the nearest number to a quotient of whole numbers
* `Binary64.mul`: the rounded product
* `Binary64.truncated?`, `Binary64.fraction`, `Binary64.isWhole`: the whole and the fractional part
* `Binary64.bits`: the interchange encoding
-/

namespace Timephrase

/-- A binary floating-point number.  `finite n m e` stands for `m * 2 ^ e`, negated if `n` holds;
zero has a sign too. -/
inductive Binary64
  | nan
  | infinite (negative : Bool)
  | finite (negative : Bool) (significand : Nat) (exponent : Int)
  deriving DecidableEq, Repr, Inhabited

namespace Binary64

/-- The number of bits of a significand. -/
def precision : Nat := 53

/-- The exponent of the least positive number. -/
def minExponent : Int := -1074

/-- The exponent of the greatest finite numbers. -/
def maxExponent : Int := 971

/-- The whole number nearest to `num / den`; of two that are equally near, the even one. -/
def roundHalfEven (num den : Nat) : Nat :=
  let q := num / den
  let r := num % den
  if 2 * r < den then q else if den < 2 * r then q + 1 else q + q % 2

/-- The greatest `k` with `2 ^ k ≤ num / den`, for positive `num` and `den`. -/
def floorLog2 (num den : Nat) : Int :=
  let guess : Int := (num.log2 : Int) - (den.log2 : Int)
  if den * Nat.pow 2 guess.toNat ≤ num * Nat.pow 2 (-guess).toNat then guess else guess - 1

/-- Zero with a sign. -/
def zero (negative : Bool) : Binary64 := finite negative 0 minExponent

/-- The number `m * 2 ^ e` for `m` at most `2 ^ 53`, or the infinity if it is too large. -/
def ofScaled (negative : Bool) (m : Nat) (e : Int) : Binary64 :=
  let (m, e) := if m = Nat.pow 2 precision then (m / 2, e + 1) else (m, e)
  if maxExponent < e then infinite negative else finite negative m e

/-- The number nearest to `num / den`, for positive `den`, a tie going to the even significand. -/
def round (negative : Bool) (num den : Nat) : Binary64 :=
  if num = 0 then zero negative
  else
    let e := max (floorLog2 num den - 52) minExponent
    ofScaled negative (roundHalfEven (num * Nat.pow 2 (-e).toNat) (den * Nat.pow 2 e.toNat)) e

/-- The number nearest to a whole number. -/
def ofInt (n : Int) : Binary64 := round (n < 0) n.natAbs 1

/-- The rounded product. -/
def mul : Binary64 → Binary64 → Binary64
  | nan, _ => nan
  | _, nan => nan
  | infinite s, infinite t => infinite (s ^^ t)
  | infinite s, finite t m _ => if m = 0 then nan else infinite (s ^^ t)
  | finite s m _, infinite t => if m = 0 then nan else infinite (s ^^ t)
  | finite s m e, finite t n f =>
    round (s ^^ t) (m * n * Nat.pow 2 (e + f).toNat) (Nat.pow 2 (-(e + f)).toNat)

/-- The whole number that is left when the fraction of a finite number is cut off. -/
def truncated? : Binary64 → Option Int
  | finite s m e =>
    let whole : Nat := m * Nat.pow 2 e.toNat / Nat.pow 2 (-e).toNat
    some (if s then -whole else whole)
  | _ => none

/-- What the whole part of a finite number leaves; not a number otherwise. -/
def fraction : Binary64 → Binary64
  | finite s m e => round s (m % Nat.pow 2 (-e).toNat) (Nat.pow 2 (-e).toNat)
  | _ => nan

/-- Whether a number is finite and has no fraction. -/
def isWhole : Binary64 → Bool
  | finite _ m e => m % Nat.pow 2 (-e).toNat == 0
  | _ => false

/-- The interchange encoding of a number: sign, biased exponent and significand, or nothing for
what is not a number. -/
def bits : Binary64 → Option Nat
  | nan => none
  | infinite s => some (sign s + 2047 * Nat.pow 2 52)
  | finite s m e =>
    if m < Nat.pow 2 52 then some (sign s + m)
    else some (sign s + (e + 1075).toNat * Nat.pow 2 52 + (m - Nat.pow 2 52))
where
  /-- The place of the sign in the encoding. -/
  sign (negative : Bool) : Nat := if negative then Nat.pow 2 63 else 0

end Binary64

end Timephrase
