/-!
# Features of a text

Cheap properties of a whole text that the rules can ask for.  A rule is passed over when the text
lacks a feature that it asks for, so a rule may only ask for what every match of it needs.

## Main definitions

* `Features`: a set of features
* `Features.scan`: the features of a text
* `Features.includes`: whether a set has all features of another
* `Features.mask`: a set as a number
-/

namespace Timephrase

/-- A set of features: an ASCII digit, the first three letters of an English month, an ASCII
capital. -/
structure Features where
  digits : Bool
  monthish : Bool
  uppercase : Bool
  deriving DecidableEq, Repr, Inhabited

namespace Features

/-- No feature. -/
def none : Features := ⟨false, false, false⟩

/-- The first three letters of the months. -/
def monthStarts : List (List Char) :=
  ["jan", "feb", "mar", "apr", "may", "jun", "jul", "aug", "sep", "oct", "nov", "dec"].map
    String.toList

/-- Whether the first three letters of a month, in any case, stand somewhere in a text. -/
def hasMonthStart : List Char → Bool
  | [] => false
  | c :: cs =>
    monthStarts.contains (((c :: cs).take 3).map Char.toLower) || hasMonthStart cs

/-- The features of a text. -/
def scan (text : String) : Features where
  digits := text.toList.any Char.isDigit
  monthish := hasMonthStart text.toList
  uppercase := text.toList.any Char.isUpper

/-- Whether the features that are there include those asked for. -/
def includes (there asked : Features) : Bool :=
  (!asked.digits || there.digits) && (!asked.monthish || there.monthish) &&
    (!asked.uppercase || there.uppercase)

/-- The features as bits: digits 1, months 2, capitals 4. -/
def mask (f : Features) : Nat :=
  (if f.digits then 1 else 0) + (if f.monthish then 2 else 0) + (if f.uppercase then 4 else 0)

/-- What is asked for is always there when nothing is. -/
@[simp] theorem includes_none (f : Features) : f.includes none = true := rfl

end Features

end Timephrase
