import Timephrase.Calendar.Shift
import Timephrase.Number.Word

/-!
# Moves over whole units on machine words

A move over months finds the number of the new month in three steps on signed words of 64 bits,
without a check: twelve times the year, the month of the year, and the months of the move.  A move
over years checks that so many months fit a word before it moves over them.  Units of fixed length
are checked throughout.

A move on words has two ways of coming to nothing.  Its run may end in an overflow, and then it has
no answer; or it answers that there is no such moment.

## Main definitions

* `Moment.inMonth?`: a moment laid on the month with a number
* `Moment.addMonthsOnWords`, `Moment.shiftOnWords`: a moment moved by months, and by whole units
* `Moment.MonthSumOverflows`: where the number of the new month does not fit a word
-/

namespace Timephrase.Moment

/-- A moment laid on the month with a number, January of the year zero being zero: its day of the
month counted from the first of that month, with its own time of day and offset.  There is none if
the year is not one that a word of 32 bits holds. -/
def inMonth? (m : Moment) (index : Int) : Option Moment := do
  let year ← IntegerRange.signed32.checked? (index / 12)
  let date ← Date.rolled? year ((index % 12).toNat + 1) m.localTime.date.day
  ofLocal? (m.localTime.withDate date) m.offset

/-- A moment moved by whole months, the number of the new month being found on words. -/
def addMonthsOnWords (o : Overflow) (m : Moment) (months : Int) : Option (Option Moment) := do
  let years ← o.word? (m.localTime.date.year * 12)
  let index ← o.word? (years + (m.localTime.date.month - 1 : Nat))
  let moved ← o.word? (index + months)
  return m.inMonth? moved

/-- A moment moved by a whole number of units, the amount being a word. -/
def shiftOnWords (o : Overflow) (m : Moment) (amount : Int) (grain : Grain) :
    Option (Option Moment) :=
  match grain with
  | .month => m.addMonthsOnWords o amount
  | .year =>
    match IntegerRange.signed64.checked? (12 * amount) with
    | some months => m.addMonthsOnWords o months
    | none => some none
  | _ => some (m.shiftWhole? amount grain)

/-- The months of a move fit a word, but the number of the month that it comes to does not. -/
def MonthSumOverflows (m : Moment) (amount : Int) : Grain → Prop
  | .month => ¬IntegerRange.signed64.Holds (m.monthIndex + amount)
  | .year => IntegerRange.signed64.Holds (12 * amount) ∧
      ¬IntegerRange.signed64.Holds (m.monthIndex + 12 * amount)
  | _ => False

instance (m : Moment) (amount : Int) (grain : Grain) :
    Decidable (m.MonthSumOverflows amount grain) :=
  match grain with
  | .month => inferInstanceAs (Decidable (¬_))
  | .year => inferInstanceAs (Decidable (_ ∧ _))
  | .second | .minute | .hour | .day | .week => inferInstanceAs (Decidable False)

end Timephrase.Moment
