/-!
# Decimal digits

Whole numbers written in decimal with a least width, and fractions of a second in nanoseconds
written with no more groups of three digits than they need.

## Main definitions

* `Digits.padded`: zeros in front up to a width
* `Digits.signedYear`: a year, in four digits or with a sign and at least four
* `Digits.fraction`: a point and three, six or nine digits
-/

namespace Timephrase.Digits

/-- A number with zeros in front of it up to a width. -/
def padded (width n : Nat) : String :=
  let digits := n.repr
  String.ofList (List.replicate (width - digits.length) '0') ++ digits

/-- A year from 0 to 9999 in four digits; any other with its sign and at least four digits. -/
def signedYear (year : Int) : String :=
  if 0 ≤ year ∧ year ≤ 9999 then padded 4 year.toNat
  else if year < 0 then "-" ++ padded 4 year.natAbs
  else "+" ++ padded 4 year.natAbs

/-- The fraction that some nanoseconds are of a second: nothing for none, otherwise a point and the
fewest of three, six or nine digits that are exact. -/
def fraction (nanos : Nat) : String :=
  if nanos = 0 then ""
  else if nanos % 1000000 = 0 then "." ++ padded 3 (nanos / 1000000)
  else if nanos % 1000 = 0 then "." ++ padded 6 (nanos / 1000)
  else "." ++ padded 9 nanos

end Timephrase.Digits
