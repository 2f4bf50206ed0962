import Timephrase.Duration
import Timephrase.Text.Digits

/-!
# Durations in clock units

A duration is written in hours, minutes and seconds, leading units that are zero left out and
fractions of a second without trailing zeros: `2h30m0s`, `1.5s`, `-45s`, `0s`.  A duration whose
nanoseconds do not fit a signed 64-bit word is written in whole seconds alone.

## Main definitions

* `Duration.text`: the written form
-/

namespace Timephrase.Duration

/-- The digits of a fraction of a second without trailing zeros. -/
def fractionDigits (nanos : Nat) : String :=
  String.ofList ((Digits.padded 9 nanos).toList.reverse.dropWhile (· == '0')).reverse

/-- The seconds field: seconds, and a fraction where there is one. -/
def secondsText (seconds nanos : Nat) : String :=
  if nanos = 0 then seconds.repr else seconds.repr ++ "." ++ fractionDigits nanos

/-- A positive number of nanoseconds in clock units. -/
def clockText (nanos : Nat) : String :=
  let hours := nanos / 3600000000000
  let minutes := nanos / 60000000000 % 60
  let seconds := secondsText (nanos / perSecond % 60) (nanos % perSecond) ++ "s"
  if 0 < hours then hours.repr ++ "h" ++ minutes.repr ++ "m" ++ seconds
  else if 0 < minutes then minutes.repr ++ "m" ++ seconds
  else seconds

/-- A whole number with a minus sign if it is negative. -/
def signedText (n : Int) : String := if n < 0 then "-" ++ n.natAbs.repr else n.natAbs.repr

/-- The written form of a duration. -/
def text (d : Duration) : String :=
  match d.word? with
  | none => signedText d.wholeSeconds ++ "s"
  | some n =>
    if n = 0 then "0s" else (if n < 0 then "-" else "") ++ clockText n.natAbs

end Timephrase.Duration
