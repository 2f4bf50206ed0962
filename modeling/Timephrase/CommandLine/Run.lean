import Timephrase.CommandLine.Arguments
import Timephrase.CommandLine.Report
import Timephrase.English.Catalog

/-!
# Runs of the command line

A run is a function of the arguments, the standard input and the clock.  It answers with an exit
code and what is written to the two outputs: 0 for success, 1 for a text that cannot be parsed and 2
for arguments that make no sense, with nothing on the standard output in the last two cases.

## Main definitions

* `Environment`: what a run depends on beside its arguments
* `Exit`: what a run answers
* `run`: the run
-/

namespace Timephrase.CommandLine

/-- What a run depends on beside its arguments: the standard input or why it cannot be read, the
clock, whether the standard output is a terminal, and the elapsed times that a report shows. -/
structure Environment where
  input : Except String String
  now : Moment
  terminal : Bool
  timing : Timing

/-- What a run answers. -/
structure Exit where
  code : Nat
  output : String
  errors : String
  deriving DecidableEq, Repr

namespace Exit

/-- Success, with what is written. -/
def success (output : String) : Exit := ⟨0, output, ""⟩

/-- A failed parse or build. -/
def failure (f : Failure) : Exit := ⟨1, "", "error: " ++ f.message ++ "\n"⟩

/-- Arguments that make no sense. -/
def usage (f : UsageFault) : Exit := ⟨2, "", f.message ++ "\n"⟩

end Exit

/-- The parser that settings ask for. -/
def parser (s : Settings) : Except Failure Parser :=
  English.catalog.map fun catalog => ⟨catalog, if s.firstOnly then .first else .all⟩

/-- What settings print for a text. -/
def output (env : Environment) (s : Settings) (text : String) : Except Failure String := do
  let parser ← parser s
  let context := Context.at (s.reference.getD env.now)
  if s.trace then
    (parser.parseTraced context text).map (Report.traced ⟨s.color⟩ env.timing text)
  else (parser.parse context text).map Report.plain

/-- The text that settings name: their own, or the standard input, without blanks at the ends. -/
def source (env : Environment) (s : Settings) : Except UsageFault String := do
  let text ← match s.input with
    | some text => .ok text
    | none => env.input.mapError .unreadableInput
  let text := Blank.trim text
  if text = "" then .error .noInput else .ok text

/-- The run of settings. -/
def runSettings (env : Environment) (s : Settings) : Exit :=
  match source env s with
  | .error fault => .usage fault
  | .ok text =>
    match output env s text with
    | .ok text => .success text
    | .error failure => .failure failure

/-- The run of arguments. -/
def run (env : Environment) (args : List String) : Exit :=
  match Settings.read env.terminal args with
  | .error fault => .usage fault
  | .ok .help => .success (helpText ++ "\n")
  | .ok .version => .success (program ++ " " ++ version ++ "\n")
  | .ok (.parse s) => runSettings env s

end Timephrase.CommandLine
