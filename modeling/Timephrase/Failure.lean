import Timephrase.Calendar.LocalTime
import Timephrase.Number.Integer
import Timephrase.Pattern.Fault
import Timephrase.Text.Quoted

/-!
# Failures

Everything that can go wrong when rules are built and texts are parsed.  A failed parse has no
partial result.

## Main definitions

* `CaptureFault`: why a captured text is not what a rule expects
* `Failure`: the failures
* `Failure.message`: their wording
-/

namespace Timephrase

/-- Why a captured text is not what a rule expects. -/
inductive CaptureFault
  | number (fault : NumberFault)
  | missing
  | unknownUnit
  | unknownMonth
  | notWhole
  deriving DecidableEq, Repr

namespace CaptureFault

/-- The wording of a fault. -/
def message : CaptureFault → String
  | number fault => fault.message
  | missing => "group did not match"
  | unknownUnit => "unknown unit"
  | unknownMonth => "unknown month"
  | notWhole => "months and years must be whole"

end CaptureFault

/-- What can go wrong: a pattern that cannot be read, a capture that cannot be converted, a time
outside the supported range, a local time that a zone skips, a code that names no zone, and a code
whose zone is not in the tables. -/
inductive Failure
  | pattern (rule : String) (fault : PatternFault)
  | capture (rule group value : String) (fault : CaptureFault)
  | outOfRange (rule : String)
  | nonexistentLocalTime (time : LocalTime) (zone : String)
  | unknownTimezone (code : String)
  | noLocation (code : String)
  deriving DecidableEq, Repr

namespace Failure

/-- The wording of a failure. -/
def message : Failure → String
  | pattern rule _ => "rule `" ++ rule ++ "`: invalid pattern"
  | capture rule group value fault =>
    "rule `" ++ rule ++ "`: cannot convert capture `" ++ group ++ "` (" ++ Quoted.quote value ++
      "): " ++ fault.message
  | outOfRange rule => "rule `" ++ rule ++ "`: resulting time is out of range"
  | nonexistentLocalTime time zone => "local time " ++ time.text ++ " does not exist in " ++ zone
  | unknownTimezone code => "invalid timezone " ++ Quoted.quote code
  | noLocation code => "no location data for " ++ Quoted.quote code

end Failure

end Timephrase
