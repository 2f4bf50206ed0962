import Timephrase.Catalog

/-!
# Running a catalog over a text

The rules are taken in order.  A rule in use whose features are all there is matched against the
whole text, and each of its matches, from left to right, rewrites the time or the duration that the
matches before it have left.  The time starts at the start of the day and the duration at nothing.
The first match whose meaning fails ends the run.

## Main definitions

* `MatchMode`: whether every match of a rule counts, or its first alone
* `Tally`: the time, the duration and the spans found so far
* `Rule.skip?`: why a rule is passed over
* `Rule.run`, `Catalog.run`: one rule and all rules over a text
-/

namespace Timephrase

/-- Which matches of a rule count: all of them, or the first alone. -/
inductive MatchMode
  | all
  | first
  deriving DecidableEq, Repr

namespace MatchMode

/-- The matches that count. -/
def select {α : Type} : MatchMode → List α → List α
  | all, ms => ms
  | first, ms => ms.take 1

end MatchMode

/-- What a run has found so far. -/
structure Tally where
  time : Moment
  duration : Duration
  spans : List Span
  deriving DecidableEq, Repr

namespace Tally

/-- What a run starts with. -/
def start (context : Context) : Tally := ⟨context.today, .zero, []⟩

/-- A match added: its meaning applied to the time or to the duration, and its span recorded. -/
def apply (context : Context) (text : String) (rule : Rule) (tally : Tally) (m : Pattern.Match) :
    Except Failure Tally :=
  let captures := Captures.ofMatch rule.name rule.pattern text m
  match rule.meaning with
  | .time f =>
    (f context tally.time captures).map fun time =>
      { tally with time, spans := tally.spans ++ [m.span] }
  | .duration f =>
    (f tally.duration captures).map fun duration =>
      { tally with duration, spans := tally.spans ++ [m.span] }

end Tally

/-- Why a rule is passed over. -/
inductive Skip
  | disabled
  | gated
  deriving DecidableEq, Repr

namespace Rule

/-- Why a rule is passed over for a text with some features, if it is. -/
def skip? (rule : Rule) (there : Features) : Option Skip :=
  if !rule.enabled then some .disabled
  else if !there.includes rule.features then some .gated
  else none

/-- The matches of a rule in a text that count. -/
def matchesIn (rule : Rule) (mode : MatchMode) (text : String) : List Pattern.Match :=
  mode.select (rule.pattern.findAll text)

/-- One rule over a text: its matches added one after another. -/
def run (rule : Rule) (context : Context) (mode : MatchMode) (text : String) (tally : Tally) :
    Except Failure Tally :=
  (rule.matchesIn mode text).foldlM (Tally.apply context text rule) tally

end Rule

namespace Catalog

/-- All rules over a text. -/
def run (c : Catalog) (context : Context) (mode : MatchMode) (text : String) :
    Except Failure Tally :=
  let there := Features.scan text
  c.rules.foldlM
    (fun tally rule =>
      match rule.skip? there with
      | some _ => .ok tally
      | none => rule.run context mode text tally)
    (.start context)

end Catalog

end Timephrase
