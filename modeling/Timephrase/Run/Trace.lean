import Timephrase.Run.Fold

/-!
# Tracing a run

A traced run does what a plain one does and keeps an account of every rule: whether it was passed
over, did not match, or was applied, and the spans that it found.

## Main definitions

* `PassStatus`, `Pass`: the account of one rule
* `Catalog.trace`: the traced run
-/

namespace Timephrase

/-- What became of a rule in a run. -/
inductive PassStatus
  | applied (count : Nat)
  | noMatch
  | disabled
  | gated
  deriving DecidableEq, Repr

namespace PassStatus

/-- The status of a rule that was passed over. -/
def ofSkip : Skip → PassStatus
  | .disabled => disabled
  | .gated => gated

/-- The status of a rule that found some spans. -/
def ofSpans (spans : List Span) : PassStatus :=
  if spans.isEmpty then noMatch else applied spans.length

/-- Whether a rule was applied. -/
def isApplied : PassStatus → Bool
  | applied _ => true
  | _ => false

end PassStatus

/-- The account of one rule in a run. -/
structure Pass where
  rule : String
  kind : RuleKind
  status : PassStatus
  spans : List Span
  deriving DecidableEq, Repr

/-- One rule over a text, with its account.  Its spans are found apart and then put after those of
the rules before it. -/
def Rule.trace (rule : Rule) (context : Context) (mode : MatchMode) (text : String)
    (there : Features) (tally : Tally) : Except Failure (Tally × Pass) :=
  match rule.skip? there with
  | some skip => .ok (tally, ⟨rule.name, rule.kind, .ofSkip skip, []⟩)
  | none => do
    let after ← rule.run context mode text { tally with spans := [] }
    let status := PassStatus.ofSpans after.spans
    .ok ({ after with spans := tally.spans ++ after.spans },
      ⟨rule.name, rule.kind, status, after.spans⟩)

namespace Catalog

/-- All rules over a text, with the accounts of those rules that have been taken. -/
def traceFrom (context : Context) (mode : MatchMode) (text : String) (there : Features) :
    Tally → List Rule → Except Failure (Tally × List Pass)
  | tally, [] => .ok (tally, [])
  | tally, rule :: rules => do
    let (tally, pass) ← rule.trace context mode text there tally
    let (tally, passes) ← traceFrom context mode text there tally rules
    .ok (tally, pass :: passes)

/-- All rules over a text, with an account of each. -/
def trace (c : Catalog) (context : Context) (mode : MatchMode) (text : String) :
    Except Failure (Tally × List Pass) :=
  traceFrom context mode text (Features.scan text) (.start context) c.rules

end Catalog

end Timephrase
