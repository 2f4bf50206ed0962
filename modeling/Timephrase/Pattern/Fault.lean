/-!
# Faults of written patterns

## Main definitions

* `PatternFault`: why a text is no pattern
-/

namespace Timephrase

/-- Why a text is no pattern. -/
inductive PatternFault
  | endsInEscape
  | unknownEscape
  | unknownProperty
  | backReference
  | badCodePoint
  | unknownWordEdge
  | unclosedSet
  | badSetItem
  | badRange
  | unclosedGroup
  | unopenedGroup
  | lookAround
  | badGroupName
  | repeatedGroupName
  | badFlags
  | nothingToRepeat
  | badCount
  | partOfCharacter
  | tooDeep
  | tooLarge
  deriving DecidableEq, Repr

end Timephrase
