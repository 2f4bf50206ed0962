import Timephrase.Parser

/-!
# Descriptions

Rules, catalogs and parsers described in a line, field by field, for messages and logs.

## Main definitions

* `Rule.describe`, `Catalog.describe`, `Parser.describe`: the descriptions
-/

namespace Timephrase

namespace Description

/-- A list in square brackets. -/
def list (items : List String) : String := "[" ++ ", ".intercalate items ++ "]"

/-- A record: its name, and its fields in braces. -/
def record (name : String) (fields : List (String × String)) : String :=
  name ++ " \x7b " ++ ", ".intercalate (fields.map fun (field, value) => field ++ ": " ++ value) ++
    " \x7d"

/-- A truth value. -/
def truth (b : Bool) : String := if b then "true" else "false"

end Description

namespace RuleKind

/-- The description of a kind. -/
def describe : RuleKind → String
  | time => "Time"
  | duration => "Duration"

end RuleKind

namespace Features

/-- The names of the features in a set. -/
def names (f : Features) : List String :=
  (if f.digits then ["HAS_DIGITS"] else []) ++ (if f.monthish then ["MONTHISH"] else []) ++
    (if f.uppercase then ["HAS_UPPERCASE"] else [])

/-- The description of a set of features: the names joined by bars, or zero. -/
def describe (f : Features) : String :=
  "BucketMask(" ++ (if f.names = [] then "0x0" else " | ".intercalate f.names) ++ ")"

end Features

namespace Rule

/-- The description of a rule. -/
def describe (r : Rule) : String :=
  Description.record "Rule" [
    ("name", Quoted.quote r.name),
    ("pattern", Quoted.quote r.pattern.source),
    ("semantics", r.kind.describe),
    ("buckets", r.features.describe),
    ("enabled", Description.truth r.enabled)]

end Rule

namespace Catalog

/-- The description of a catalog. -/
def describe (c : Catalog) : String :=
  Description.record "Catalog" [("rules", Description.list (c.rules.map Rule.describe))]

end Catalog

namespace MatchMode

/-- The description of a match mode. -/
def describe : MatchMode → String
  | all => "All"
  | first => "First"

end MatchMode

namespace Parser

/-- The description of a parser. -/
def describe (p : Parser) : String :=
  Description.record "Parser" [
    ("catalog", p.catalog.describe),
    ("clock", Quoted.quote "<clock>"),
    ("options", Description.record "Options" [("match_mode", p.mode.describe)])]

end Parser

end Timephrase
