import Timephrase.Number.Binary64

/-!
# Decimal notation of floating-point numbers

A number is written as an optional sign before `nan`, `inf` or `infinity` in letters of any case,
or before digits with at most one point and at least one digit, with an optional exponent of ten.
It denotes the floating-point number nearest to its decimal value.

## Main definitions

* `Decimal`: digits and a power of ten
* `Decimal.nearest`: the floating-point number nearest to it
* `Binary64.ofText?`: the number that a text denotes
-/

namespace Timephrase

/-- The decimal number `digits * 10 ^ exponent`. -/
structure Decimal where
  digits : Nat
  exponent : Int
  deriving DecidableEq, Repr

namespace Decimal

/-- The number that decimal digits write, most significant first. -/
def ofDigits (cs : List Char) : Nat :=
  cs.foldl (fun n c => 10 * n + (c.toNat - '0'.toNat)) 0

/-- The floating-point number nearest to a decimal.  By the binary digits that it has, three for each
power of ten, a decimal may be seen to be infinite or zero long before its power of ten is worked
out. -/
def nearest (negative : Bool) (d : Decimal) : Binary64 :=
  if d.digits = 0 then Binary64.zero negative
  else
    let size := (d.digits.log2 : Int) + 3 * d.exponent
    if 0 < d.exponent ∧ 1100 < size then .infinite negative
    else if size < -1100 then Binary64.zero negative
    else .round negative (d.digits * Nat.pow 10 d.exponent.toNat) (Nat.pow 10 (-d.exponent).toNat)

/-- The exponent after the digits: nothing, or `e` with a signed whole number. -/
def readExponent? : List Char → Option Int
  | [] => some 0
  | c :: cs =>
    if c = 'e' ∨ c = 'E' then
      match cs with
      | '-' :: ds => (digits? ds).map fun n => -(n : Int)
      | '+' :: ds => (digits? ds).map fun n => (n : Int)
      | ds => (digits? ds).map fun n => (n : Int)
    else none
where
  /-- The number written by a text of digits alone. -/
  digits? (cs : List Char) : Option Nat :=
    if cs ≠ [] ∧ cs.all Char.isDigit then some (ofDigits cs) else none

/-- The unsigned decimal that a text writes. -/
def read? (cs : List Char) : Option Decimal :=
  let whole := cs.takeWhile Char.isDigit
  let rest := cs.dropWhile Char.isDigit
  let (part, rest) := match rest with
    | '.' :: tail => (tail.takeWhile Char.isDigit, tail.dropWhile Char.isDigit)
    | _ => ([], rest)
  if whole ++ part = [] then none
  else (readExponent? rest).map fun e => ⟨ofDigits (whole ++ part), e - part.length⟩

end Decimal

namespace Binary64

/-- The number that a text without a sign denotes, negated if `negative` holds. -/
def ofUnsigned? (negative : Bool) (cs : List Char) : Option Binary64 :=
  let word := cs.map Char.toLower
  if word = "nan".toList then some nan
  else if word = "inf".toList ∨ word = "infinity".toList then some (infinite negative)
  else (Decimal.read? cs).map (Decimal.nearest negative)

/-- The number that a text denotes. -/
def ofText? (text : String) : Option Binary64 :=
  match text.toList with
  | '-' :: cs => ofUnsigned? true cs
  | '+' :: cs => ofUnsigned? false cs
  | cs => ofUnsigned? false cs

end Binary64

end Timephrase
