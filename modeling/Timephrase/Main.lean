import Std.Time.Zoned
import Timephrase.CommandLine.Elapsed
import Timephrase.CommandLine.Run

/-!
# The program

Reads the arguments, the standard input where it is the text, the clock and the terminal, and writes
what the run of the command line answers.

## Main definitions

* `systemMoment`: the moment that the system clock shows, by the local clock
* `standardInput`: the standard input, if it is a text
* `timed`, `measure`: elapsed times, of one action and of a traced parse
* `main`: the program
-/

namespace Timephrase.CommandLine

/-- The moment that the system clock shows, by the local clock; where the local clock is not known,
by that of universal time. -/
def systemMoment : IO Moment := do
  let stamp ← Std.Time.Timestamp.now
  let offset ←
    try
      let rules ← Std.Time.Database.defaultGetLocalZoneRules
      pure (rules.findLocalTimeTypeForTimestamp stamp).gmtOffset.second.val
    catch _ => pure 0
  return ⟨.ofNanos stamp.toNanosecondsSinceUnixEpoch.val, offset⟩

/-- The standard input, or why it is not a text. -/
def standardInput : IO (Except String String) := do
  try
    let bytes ← (← IO.getStdin).readBinToEnd
    match String.fromUTF8? bytes with
    | some text => return .ok text
    | none => return .error "stream did not contain valid UTF-8"
  catch e => return .error e.toString

/-- What an action answers and the nanoseconds that it takes. -/
@[noinline] def timed {α : Type} (action : IO α) : IO (α × Nat) := do
  let start ← IO.monoNanosNow
  let a ← action
  let stop ← IO.monoNanosNow
  return (a, stop - start)

/-- The nanoseconds that some rules take for a text, up to the first that fails, and the spans that
they find. -/
def measurePasses (context : Context) (mode : MatchMode) (text : String) (there : Features) :
    Tally → List Rule → IO (List Nat × List Span)
  | tally, [] => return ([], tally.spans)
  | tally, rule :: rules => do
    match ← timed <| IO.lazyPure fun _ => rule.trace context mode text there tally with
    | (.error _, time) => return ([time], tally.spans)
    | (.ok (tally, _), time) =>
      let (times, spans) ← measurePasses context mode text there tally rules
      return (time :: times, spans)

/-- The elapsed times of a traced parse of a text. -/
def measure (p : Parser) (context : Context) (text : String) : IO Timing := do
  let start ← IO.monoNanosNow
  let (there, _) ← timed <| IO.lazyPure fun _ => Features.scan text
  let (times, spans) ← measurePasses context p.mode text there (.start context) p.catalog.rules
  let (_, reduce) ← timed <| IO.lazyPure fun _ => Residual.residual text spans
  let stop ← IO.monoNanosNow
  return {
    total := Elapsed.text (stop - start)
    rules := Elapsed.text (times.foldl (· + ·) 0)
    reduce := Elapsed.text reduce
    pass := fun place => Elapsed.text (times.getD place 0) }

/-- The elapsed times that the report for some arguments needs, if a report is asked for. -/
def timing (env : Environment) (args : List String) : IO Timing := do
  match Settings.read env.terminal args with
  | .ok (.parse s) =>
    match source env s, parser s with
    | .ok text, .ok p =>
      if s.trace then measure p (Context.at (s.reference.getD env.now)) text else return env.timing
    | _, _ => return env.timing
  | _ => return env.timing

end Timephrase.CommandLine

open Timephrase.CommandLine in
/-- The program: one run of the command line. -/
def main (args : List String) : IO UInt32 := do
  let terminal ← (← IO.getStdout).isTty
  let input ← match Settings.read terminal args with
    | .ok (.parse ⟨none, _, _, _, _, _⟩) => standardInput
    | _ => pure (.ok "")
  let idle : Timing := ⟨"", "", "", fun _ => ""⟩
  let env : Environment := ⟨input, ← systemMoment, terminal, idle⟩
  let exit := run { env with timing := ← timing env args } args
  (← IO.getStdout).putStr exit.output
  (← IO.getStderr).putStr exit.errors
  return exit.code.toUInt32
