/-!
# Elapsed times

An elapsed time is written in the largest of four units that it reaches, with the rest as a fraction
that has no trailing zeros: `1.5s`, `2ms`, `12.345µs`, `0ns`.

## Main definitions

* `Elapsed.text`: the written form of some nanoseconds
-/

namespace Timephrase.CommandLine.Elapsed

/-- A fraction of a unit of `10 ^ places`, trailing zeros left out, with a point in front of it unless
nothing is left. -/
def fraction : Nat → Nat → String
  | 0, _ => ""
  | places + 1, rest =>
    if rest = 0 then ""
    else if rest % 10 = 0 then fraction places (rest / 10)
    else
      let digits := rest.repr
      "." ++ String.ofList (List.replicate (places + 1 - digits.length) '0') ++ digits

/-- Some nanoseconds in a unit of `10 ^ places` of them. -/
def inUnit (places : Nat) (unit : String) (nanos : Nat) : String :=
  (nanos / Nat.pow 10 places).repr ++ fraction places (nanos % Nat.pow 10 places) ++ unit

/-- The written form of some nanoseconds. -/
def text (nanos : Nat) : String :=
  if Nat.pow 10 9 ≤ nanos then inUnit 9 "s" nanos
  else if Nat.pow 10 6 ≤ nanos then inUnit 6 "ms" nanos
  else if Nat.pow 10 3 ≤ nanos then inUnit 3 "µs" nanos
  else inUnit 0 "ns" nanos

end Timephrase.CommandLine.Elapsed
