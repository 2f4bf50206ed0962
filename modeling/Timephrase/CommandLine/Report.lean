import Timephrase.Calendar.Rfc3339
import Timephrase.Duration.Text
import Timephrase.Parser

/-!
# Reports

The plain result of a parse in four lines, and the report of a traced parse, which lists every rule
with its spans.  Colours only decorate a report: they are put around pieces of text, and without
them the same pieces are left.

## Main definitions

* `Palette`: whether colours are used
* `Timing`: the elapsed times of a report
* `Report.plain`, `Report.traced`: the two outputs
-/

namespace Timephrase.CommandLine

/-- Styles of terminal text. -/
inductive Style
  | bold
  | dim
  | green
  | yellow
  | blue
  | cyan
  | gray
  deriving DecidableEq, Repr

namespace Style

/-- The number that turns a style on. -/
def code : Style → String
  | bold => "1"
  | dim => "2"
  | green => "32"
  | yellow => "33"
  | blue => "34"
  | cyan => "36"
  | gray => "90"

end Style

/-- Whether styles are used. -/
structure Palette where
  enabled : Bool
  deriving DecidableEq, Repr

namespace Palette

/-- An escape sequence of terminals. -/
def escape (code : String) : String := "\x1b[" ++ code ++ "m"

/-- A text in a style, which ends with the text. -/
def paint (p : Palette) (style : Style) (text : String) : String :=
  if p.enabled then escape style.code ++ text ++ escape "0" else text

@[simp] theorem paint_disabled (style : Style) (text : String) :
    (⟨false⟩ : Palette).paint style text = text := rfl

end Palette

/-- The elapsed times of a report, already written: in total, for all rules, for the residual text,
and for the rule at each place of the catalog. -/
structure Timing where
  total : String
  rules : String
  reduce : String
  pass : Nat → String

namespace Report

/-- A text filled up with spaces to a width. -/
def padded (width : Nat) (text : String) : String :=
  text ++ String.ofList (List.replicate (width - text.length) ' ')

/-- A span as its two positions. -/
def span (s : Span) : String := s.start.repr ++ ".." ++ s.stop.repr

/-- Lines, each with its end. -/
def lines (ls : List String) : String := String.join (ls.map (· ++ "\n"))

/-- The plain result. -/
def plain (e : Extraction) : String :=
  lines [
    "time:     " ++ e.time.rfc3339,
    "duration: " ++ e.duration.text,
    "text:     " ++ e.text,
    "spans:    [" ++ ", ".intercalate (e.spans.map span) ++ "]"]

/-- The word for what a rule rewrites. -/
def kind : RuleKind → String
  | .time => "time"
  | .duration => "duration"

/-- What became of a rule. -/
def status (p : Palette) : PassStatus → String
  | .applied n => p.paint .green ("✓ " ++ n.repr ++ " applied")
  | .noMatch => p.paint .dim "✗ no match"
  | .disabled => p.paint .yellow "– disabled"
  | .gated => p.paint .dim "– gated"

/-- The line of a span with the piece of text that it covers. -/
def spanLine (p : Palette) (input : String) (s : Span) : String :=
  "      " ++ p.paint .yellow (span s) ++ " " ++
    p.paint .dim ("\"" ++ (Utf8.slice? input s.start s.stop).getD "" ++ "\"")

/-- The lines of one rule. -/
def passLines (p : Palette) (input elapsed : String) (pass : Pass) : List String :=
  ("  " ++ p.paint .blue (padded 10 pass.rule) ++ " " ++
    p.paint .dim (padded 8 (kind pass.kind)) ++ " " ++ status p pass.status ++ " " ++
    p.paint .dim elapsed) :: pass.spans.map (spanLine p input)

/-- The lines of all rules from a place on. -/
def passesLines (p : Palette) (input : String) (timing : Timing) : Nat → List Pass → List String
  | _, [] => []
  | place, pass :: passes =>
    passLines p input (timing.pass place) pass ++ passesLines p input timing (place + 1) passes

/-- The line of what is left of the text. -/
def textLine (p : Palette) (text : String) : String :=
  if text = "" then "  " ++ p.paint .dim "text:    " ++ " " ++ p.paint .dim "(empty)"
  else "  " ++ p.paint .dim "text:    " ++ " \"" ++ text ++ "\""

/-- The line of the rules that were applied. -/
def appliedLine (p : Palette) (names : List String) : String :=
  "  " ++ p.paint .dim "applied: " ++ " " ++
    (if names = [] then p.paint .dim "none" else p.paint .blue (" → ".intercalate names))

/-- The report of a traced parse. -/
def traced (p : Palette) (timing : Timing) (input : String) (t : TracedExtraction) : String :=
  lines (
    ["",
      p.paint .bold (p.paint .cyan ("⚙  Parsing: \"" ++ input ++ "\"")),
      "  " ++ p.paint .dim "reference:" ++ " " ++ p.paint .gray t.context.now.rfc3339,
      "",
      p.paint .gray "━━━ Rules ━━━"] ++
    passesLines p input timing 0 t.passes ++
    ["",
      p.paint .gray "━━━ Result ━━━",
      "  " ++ p.paint .dim "time:    " ++ " " ++
        p.paint .bold (p.paint .green t.result.time.rfc3339),
      "  " ++ p.paint .dim "duration:" ++ " " ++ p.paint .green t.result.duration.text,
      textLine p t.result.text,
      appliedLine p t.appliedRules,
      "",
      p.paint .gray "━━━ Timing ━━━",
      "  Total: " ++ p.paint .green timing.total ++ "  │  Rules: " ++
        p.paint .cyan timing.rules ++ "  │  Reduce: " ++ p.paint .dim timing.reduce,
      ""])

end Report

end Timephrase.CommandLine
