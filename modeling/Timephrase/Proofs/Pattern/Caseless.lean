import Timephrase.Proofs.Pattern.Recoding
import Timephrase.Proofs.Text.AsciiCase

/-!
# Patterns that ignore the case of ASCII letters

A pattern whose sets hold both cases of an ASCII letter or neither matches a text as it does the text
in small ASCII letters.

## Main definitions

* `Node.ignoresCase`: whether no set of a node tells the cases apart

## Main results

* `Pattern.findAll_toLower`: the matches in a text
-/

namespace Timephrase

theorem CharSet.mem_toLower {s : CharSet} (h : s.ranges.ignoresCase = true) (ch : Char) :
    s.mem ch.toLower = s.mem ch :=
  Ranges.contains_toLower h ch

/-- Small ASCII letters stand where the letters did, and are letters like them. -/
theorem recoding_toLower : Recoding Char.toLower where
  utf8Size := Ascii.utf8Size_toLower
  isWord := Word.isWord_toLower
  isAsciiWord := Word.isAsciiWord_toLower
  lineEnd := by
    rintro c d (rfl | rfl)
    · exact Ascii.toLower_eq_iff (by decide)
    · exact Ascii.toLower_eq_iff (by decide)

namespace Pattern

namespace Node

/-- Whether no set of a node tells the two cases of an ASCII letter apart. -/
def ignoresCase (node : Node) : Bool := node.allSets fun s => s.ranges.ignoresCase

theorem isBlindTo_toLower {node : Node} (h : node.ignoresCase = true) :
    node.IsBlindTo Char.toLower :=
  isBlindTo_of_allSets (fun _ => CharSet.mem_toLower) h

end Node

/-- **A pattern that ignores case** finds the same in a text in small letters. -/
theorem findAll_toLower {p : Pattern} (hloop : p.node.isLoopFree = true)
    (hcase : p.node.ignoresCase = true) (text : String) :
    p.findAll text.toLower = p.findAll text :=
  findAll_map recoding_toLower hloop (Node.isBlindTo_toLower hcase) text

end Pattern

end Timephrase
