import Timephrase.Residual
import Timephrase.Run.Trace

/-!
# Parsers

A parser is a catalog with a match mode.  It takes the phrases that its rules recognise out of a
text, and answers the time and the duration that they mean together with what is left of the text.

## Main definitions

* `Parser`: catalog and match mode
* `Extraction`: what a parse answers
* `Parser.parse`: a parse in a context
* `Parser.parseTraced`: a parse with an account of every rule
-/

namespace Timephrase

/-- A catalog and which matches of its rules count. -/
structure Parser where
  catalog : Catalog
  mode : MatchMode

/-- What a parse answers: the time, the duration, the text that is left, and the spans taken out, in
the order in which they were found. -/
structure Extraction where
  time : Moment
  duration : Duration
  text : String
  spans : List Span
  deriving DecidableEq, Repr

/-- An extraction with the context it was made in and an account of every rule. -/
structure TracedExtraction where
  result : Extraction
  context : Context
  passes : List Pass
  deriving DecidableEq, Repr

namespace Extraction

/-- The extraction that a tally of a text makes. -/
def ofTally (text : String) (tally : Tally) : Extraction where
  time := tally.time
  duration := tally.duration
  text := Residual.residual text tally.spans
  spans := tally.spans

end Extraction

namespace TracedExtraction

/-- The names of the rules that were applied, in catalog order. -/
def appliedRules (t : TracedExtraction) : List String :=
  (t.passes.filter (·.status.isApplied)).map (·.rule)

end TracedExtraction

namespace Parser

/-- A parse of a text in a context. -/
def parse (p : Parser) (context : Context) (text : String) : Except Failure Extraction :=
  (p.catalog.run context p.mode text).map (Extraction.ofTally text)

/-- A parse of a text in a context, with an account of every rule. -/
def parseTraced (p : Parser) (context : Context) (text : String) :
    Except Failure TracedExtraction :=
  (p.catalog.trace context p.mode text).map fun (tally, passes) =>
    ⟨.ofTally text tally, context, passes⟩

end Parser

end Timephrase
