import Timephrase.Calendar.Moment

/-!
# Context

The moments that relative phrases refer to.  Both come from one reading of the clock, so that all
rules of a parse agree on them.

## Main definitions

* `Context`: now, and the start of today
* `Context.at`: the context of a moment
-/

namespace Timephrase

/-- The moment of reference and the start of its day. -/
structure Context where
  now : Moment
  today : Moment
  deriving DecidableEq, Repr

namespace Context

/-- The context of a moment. -/
def «at» (now : Moment) : Context := ⟨now, now.startOfDay⟩

end Context

end Timephrase
