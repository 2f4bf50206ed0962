import Timephrase.Pattern.Compose
import Timephrase.Zone.Code

/-!
# The nodes of the English patterns

The eight patterns of the English catalog as nodes.  A letter stands for all characters that differ
from it in case alone; in the pattern for dates these are the two ASCII letters.

## Main definitions

* `English.letter`, `English.letters`, `English.asciiLetters`: letters in any case
* `English.optional`: nodes that may be left out
* `English.dayWordNode`, `English.atTimeNode`, `English.lengthNode`, `English.dateNode`,
  `English.timezoneNode`: the nodes of the patterns
-/

namespace Timephrase.English

open Pattern Pattern.Node

/-! ## Characters -/

/-- A small ASCII letter, its capital, and what else folds to it. -/
def letterSet (c : Char) : CharSet :=
  ⟨⟨(c.toUpper.toNat, c.toUpper.toNat) :: (c.toNat, c.toNat) ::
    (if c = 's' then [(0x17F, 0x17F)] else if c = 'k' then [(0x212A, 0x212A)] else [])⟩, false⟩

/-- A small ASCII letter and its capital. -/
def asciiLetterSet (c : Char) : CharSet :=
  ⟨⟨[(c.toUpper.toNat, c.toUpper.toNat), (c.toNat, c.toNat)]⟩, true⟩

/-- The digits. -/
def digitSet : CharSet := ⟨CharSet.asciiDigits, false⟩

/-- The blanks of all scripts. -/
def blankSet : CharSet := ⟨CharSet.blanks, false⟩

/-- The marks that may stand between the hour and the minute: comma, point and colon. -/
def markSet : CharSet := ⟨⟨[(0x2C, 0x2C), (0x2E, 0x2E), (0x3A, 0x3A)]⟩, false⟩

/-- The first letters of the two halves of the day. -/
def halfSet : CharSet := ⟨⟨[(0x41, 0x41), (0x50, 0x50), (0x61, 0x61), (0x70, 0x70)]⟩, false⟩

/-- The characters of an amount: the point and the digits. -/
def amountSet : CharSet := ⟨⟨[(0x2E, 0x2E), (0x30, 0x39)]⟩, false⟩

/-- The digits, as the pattern for dates has them. -/
def asciiDigitSet : CharSet := ⟨CharSet.asciiDigits, true⟩

/-- The blanks of ASCII. -/
def asciiBlankSet : CharSet := ⟨CharSet.asciiBlanks, true⟩

/-- What may stand before a year: blanks of ASCII and commas. -/
def asciiGapSet : CharSet := ⟨⟨[(0x9, 0xD), (0x20, 0x20), (0x2C, 0x2C)]⟩, true⟩

/-! ## Parts -/

/-- An edge of a word. -/
def edge : Node := .look (.word .boundary false)

/-- An edge of a word of ASCII characters. -/
def asciiEdge : Node := .look (.word .boundary true)

/-- A letter in any case. -/
def letter (c : Char) : Node := .set (letterSet c)

/-- The letters of a word in any case. -/
def letters (word : String) : List Node := word.toList.map letter

/-- The ASCII letters of a word in any case. -/
def asciiLetters (word : String) : List Node := word.toList.map fun c => .set (asciiLetterSet c)

/-- The characters of a word as they are. -/
def exactly (word : String) : Node :=
  ofItems (word.toList.map fun c => .set ⟨.single c.toNat, false⟩)

/-- Nodes that may be left out. -/
def optional (nodes : List Node) : Node := .times (ofItems nodes) 0 (some 1) true

/-- A character that may be left out. -/
def optionalSet (s : CharSet) : Node := .run s 0 (some 1) true

/-- One or two digits. -/
def oneOrTwo (s : CharSet) : Node := .run s 1 (some 2) true

/-- The plural ending, which may be left out. -/
def plural : Node := optionalSet (letterSet 's')

/-! ## Patterns -/

/-- A word on its own. -/
def dayWordNode (word : String) : Node := ofItems ([edge] ++ letters word ++ [edge])

/-- A minute, maybe after a mark. -/
def minuteNode : Node := optional [optionalSet markSet, .group 2 (.run digitSet 2 (some 2) true)]

/-- A half of the day. -/
def halfNode : Node :=
  optional [.group 3 (ofBranches [ofItems (letters "am"), ofItems (letters "pm")])]

/-- "at 3pm", "at 15:30". -/
def atTimeNode : Node :=
  ofItems [edge, letter 'a', letter 't', .set blankSet, .group 1 (oneOrTwo digitSet), minuteNode,
    optionalSet blankSet, halfNode, edge]

/-- The words for the units from seconds to days. -/
def fixedUnits : List Node := [
  ofItems (letters "s" ++ [optional (letters "ec" ++ [optional (letters "ond"), plural])]),
  ofItems (letters "m" ++ [optional (letters "in" ++ [optional (letters "ute"), plural])]),
  ofItems (letters "h" ++ [optional ([optional (letters "ou")] ++ letters "r" ++ [plural])]),
  ofItems (letters "d" ++ [optional (letters "ay" ++ [plural])])]

/-- The words for weeks, months and years. -/
def longUnits : List Node := [
  ofItems (letters "w" ++ [optional ([optional (letters "ee")] ++ letters "k" ++ [plural])]),
  ofItems (letters "mo" ++ [optional (letters "nth" ++ [plural])]),
  ofItems (letters "y" ++ [optional ([optional (letters "ea")] ++ letters "r" ++ [plural])])]

/-- A word, an amount and a unit. -/
def lengthNode (word : String) (units : List Node) : Node :=
  ofItems ([edge] ++ letters word ++
    [.set blankSet, .group 1 (.run amountSet 1 none true), optionalSet blankSet,
      .group 2 (ofBranches units), edge])

/-- The names of the months, which may be cut short. -/
def monthNodes : List Node := [
  ofItems (asciiLetters "jan" ++ [optional (asciiLetters "uary")]),
  ofItems (asciiLetters "feb" ++ [optional (asciiLetters "ruary")]),
  ofItems (asciiLetters "mar" ++ [optional (asciiLetters "ch")]),
  ofItems (asciiLetters "apr" ++ [optional (asciiLetters "il")]),
  ofItems (asciiLetters "may"),
  ofItems (asciiLetters "jun" ++ [optionalSet (asciiLetterSet 'e')]),
  ofItems (asciiLetters "jul" ++ [optionalSet (asciiLetterSet 'y')]),
  ofItems (asciiLetters "aug" ++ [optional (asciiLetters "ust")]),
  ofItems (asciiLetters "sep" ++
    [optional (asciiLetters "t" ++ [optional (asciiLetters "ember")])]),
  ofItems (asciiLetters "oct" ++ [optional (asciiLetters "ober")]),
  ofItems (asciiLetters "nov" ++ [optional (asciiLetters "ember")]),
  ofItems (asciiLetters "dec" ++ [optional (asciiLetters "ember")])]

/-- "on oct 26, 1985", "26 oct". -/
def dateNode : Node :=
  ofItems [asciiEdge, optional (asciiLetters "on" ++ [optionalSet asciiBlankSet]),
    optional [.group 1 (oneOrTwo asciiDigitSet), optionalSet asciiBlankSet],
    .group 2 (ofBranches monthNodes), asciiEdge,
    optional [.set asciiBlankSet, .group 3 (oneOrTwo asciiDigitSet), asciiEdge],
    optional [.run asciiGapSet 1 none true, .group 4 (.run asciiDigitSet 4 (some 4) true),
      asciiEdge]]

/-- What stands before the code of a zone: a word "at", an hour, a minute and a half of the day. -/
def clockNodes : List Node :=
  [edge, letter 'a', letter 't', .set blankSet, oneOrTwo digitSet,
    optional [optionalSet markSet, .run digitSet 2 (some 2) true], optionalSet blankSet,
    optional [.set halfSet, letter 'm'], optionalSet blankSet]

/-- "at 3pm PST", "at 9 CET". -/
def timezoneNode : Node :=
  ofItems (clockNodes ++ [.group 1 (ofBranches (ZoneCode.ordered.map exactly)), edge])

end Timephrase.English
