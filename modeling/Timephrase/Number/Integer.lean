/-!
# Whole numbers in a range

A whole number is written as an optional sign and decimal digits.  A minus sign is allowed only
where the range has negative numbers.  The text is read from the left, and the first character that
is wrong, or takes the number out of the range, decides the answer.

## Main definitions

* `NumberFault`: why a text is no number of the kind asked for
* `IntegerRange`: the range, with the three ranges of machine words that are in use
* `IntegerRange.read`: the number that a text writes
-/

namespace Timephrase

/-- Why a text is no number of the kind asked for. -/
inductive NumberFault
  | invalidDigit
  | tooLarge
  | tooSmall
  | invalidFloat
  deriving DecidableEq, Repr

namespace NumberFault

/-- The wording of a fault. -/
def message : NumberFault → String
  | invalidDigit => "invalid digit found in string"
  | tooLarge => "number too large to fit in target type"
  | tooSmall => "number too small to fit in target type"
  | invalidFloat => "invalid float literal"

end NumberFault

/-- The whole numbers from `least` to `greatest`. -/
structure IntegerRange where
  least : Int
  greatest : Int
  deriving DecidableEq, Repr

namespace IntegerRange

/-- Signed words of 64 bits. -/
def signed64 : IntegerRange := ⟨-9223372036854775808, 9223372036854775807⟩

/-- Signed words of 32 bits. -/
def signed32 : IntegerRange := ⟨-2147483648, 2147483647⟩

/-- Unsigned words of 32 bits. -/
def unsigned32 : IntegerRange := ⟨0, 4294967295⟩

/-- The digits after what has been read so far, each taking the number further from zero. -/
def readDigits (range : IntegerRange) (negative : Bool) : Int → List Char → Except NumberFault Int
  | n, [] => .ok n
  | n, c :: cs =>
    if c.isDigit then
      let digit : Int := c.toNat - '0'.toNat
      let next := if negative then 10 * n - digit else 10 * n + digit
      if range.greatest < next then .error .tooLarge
      else if next < range.least then .error .tooSmall
      else readDigits range negative next cs
    else .error .invalidDigit

/-- The number of the range that a text writes. -/
def read (range : IntegerRange) (text : String) : Except NumberFault Int :=
  match text.toList with
  | [] => .error .invalidDigit
  | ['+'] => .error .invalidDigit
  | ['-'] => .error .invalidDigit
  | '+' :: cs => range.readDigits false 0 cs
  | '-' :: cs => if range.least < 0 then range.readDigits true 0 cs else .error .invalidDigit
  | cs => range.readDigits false 0 cs

end IntegerRange

end Timephrase
