import Timephrase.Run.Fold

/-!
# The calls of a run

A run calls the meaning of a rule once for each match that counts.  All calls that it might make are
known beforehand; it makes them in order, up to and including the first that fails.

## Main definitions

* `Call`: a rule, its place in the catalog and one of its matches
* `Catalog.calls`: the calls that a run makes if none of them fails
* `Catalog.callsMade`: the calls that a run makes
-/

namespace Timephrase

/-- One call of the meaning of a rule, which stands at a place in its catalog. -/
structure Call where
  place : Nat
  rule : Rule
  found : Pattern.Match

namespace Call

/-- The captures that a call hands over. -/
def captures (call : Call) (text : String) : Captures :=
  .ofMatch call.rule.name call.rule.pattern text call.found

/-- The tally after a call. -/
def apply (call : Call) (context : Context) (text : String) (tally : Tally) :
    Except Failure Tally :=
  tally.apply context text call.rule call.found

/-- The calls that are made from a tally on: those that succeed, and the first that does not. -/
def made (context : Context) (text : String) : Tally → List Call → List Call
  | _, [] => []
  | tally, call :: calls =>
    match call.apply context text tally with
    | .ok tally => call :: made context text tally calls
    | .error _ => [call]

end Call

namespace Catalog

/-- The calls of the rules from a place on, if none fails. -/
def callsFrom (mode : MatchMode) (text : String) (there : Features) : Nat → List Rule → List Call
  | _, [] => []
  | place, rule :: rules =>
    (match rule.skip? there with
      | some _ => []
      | none => (rule.matchesIn mode text).map fun found => ⟨place, rule, found⟩) ++
      callsFrom mode text there (place + 1) rules

/-- The calls that a run makes if none of them fails. -/
def calls (c : Catalog) (mode : MatchMode) (text : String) : List Call :=
  callsFrom mode text (Features.scan text) 0 c.rules

/-- The calls that a run makes. -/
def callsMade (c : Catalog) (context : Context) (mode : MatchMode) (text : String) : List Call :=
  Call.made context text (.start context) (c.calls mode text)

end Catalog

end Timephrase
