import Timephrase.Captures
import Timephrase.Context
import Timephrase.Features
import Timephrase.Pattern.Reader

/-!
# Rules

A rule recognises a phrase and says what it means.  Its pattern finds the phrase; its meaning is a
function that rewrites either the time or the duration found so far, never both.

## Main definitions

* `Meaning`: the two kinds of meaning
* `Rule`: name, pattern, meaning, the features asked for, and whether the rule is in use
* `Rule.Draft`: a rule whose pattern has not been read yet
* `Rule.Draft.finish`: the rule of a draft
-/

namespace Timephrase

/-- What a rule rewrites. -/
inductive RuleKind
  | time
  | duration
  deriving DecidableEq, Repr

/-- What a match means: a new time, from the context, the time so far and the captures, or a new
duration, from the duration so far and the captures. -/
inductive Meaning
  | time (f : Context → Moment → Captures → Except Failure Moment)
  | duration (f : Duration → Captures → Except Failure Duration)

/-- What a meaning rewrites. -/
def Meaning.kind : Meaning → RuleKind
  | time _ => .time
  | duration _ => .duration

/-- A rule. -/
structure Rule where
  name : String
  pattern : Pattern
  meaning : Meaning
  features : Features
  enabled : Bool

namespace Rule

/-- What a rule rewrites. -/
def kind (r : Rule) : RuleKind := r.meaning.kind

/-- A rule put into use or out of it. -/
def withEnabled (r : Rule) (enabled : Bool) : Rule := { r with enabled }

/-- A rule whose pattern has not been read yet.  Unless it says otherwise it ignores letter case,
matches characters of all scripts, asks for no features and is in use. -/
structure Draft where
  name : String
  source : String
  anyCase : Bool := true
  unicode : Bool := true
  features : Features := .none
  enabled : Bool := true

/-- The rule of a draft with a meaning. -/
def Draft.finish (d : Draft) (meaning : Meaning) : Except Failure Rule :=
  match Pattern.read d.source d.anyCase d.unicode with
  | .ok pattern => .ok ⟨d.name, pattern, meaning, d.features, d.enabled⟩
  | .error fault => .error (.pattern d.name fault)

@[simp] theorem name_withEnabled (r : Rule) (b : Bool) : (r.withEnabled b).name = r.name := rfl

@[simp] theorem enabled_withEnabled (r : Rule) (b : Bool) : (r.withEnabled b).enabled = b := rfl

end Rule

end Timephrase
