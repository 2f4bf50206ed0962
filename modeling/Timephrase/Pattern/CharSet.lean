import Timephrase.Text.Blank
import Timephrase.Text.Folding
import Timephrase.Text.Word

/-!
# Sets of characters

The sets that patterns match single characters against, and the classes of digits, blanks and word
characters that they are made from.

## Main definitions

* `CharSet`: the sets
* `CharSet.mem`: membership
* `CharSet.single?`: the member of a set that has just one
* `CharSet.digits`, `CharSet.blanks`, `CharSet.words`: the classes
-/

namespace Timephrase

/-- A set of characters, which may have been written for ASCII alone.  That makes no difference to
what belongs to it, but two sets are taken for the same only if they do not differ in this. -/
structure CharSet where
  ranges : Ranges
  ascii : Bool
  deriving DecidableEq, Repr, Inhabited

namespace CharSet

/-- Whether a character belongs to a set. -/
def mem (s : CharSet) (c : Char) : Bool := s.ranges.contains c.toNat

/-- The code point of ranges that hold just one. -/
def onlyOf? (r : Ranges) : Option Nat :=
  match r.list with
  | [(lo, hi)] => if lo = hi then some lo else none
  | _ => none

/-- The set of some ranges.  One that has no member, or a single one, is the same for ASCII. -/
def ofRanges (ascii : Bool) (r : Ranges) : CharSet :=
  ⟨r, ascii && !r.list.isEmpty && (onlyOf? r).isNone⟩

/-- The set without members. -/
def none : CharSet := ⟨.empty, false⟩

/-- Whether a set has no members. -/
def isEmpty (s : CharSet) : Bool := s.ranges.list.isEmpty

/-- The code point of the member of a set that has just one. -/
def single? (s : CharSet) : Option Nat := onlyOf? s.ranges

@[simp] theorem mem_none (c : Char) : none.mem c = false := rfl

@[simp] theorem mem_ofRanges (ascii : Bool) (r : Ranges) (c : Char) :
    (ofRanges ascii r).mem c = r.contains c.toNat := rfl

/-! ## Classes -/

/-- The decimal digits of ASCII. -/
def asciiDigits : Ranges := ⟨[(0x30, 0x39)]⟩

/-- The blanks of ASCII. -/
def asciiBlanks : Ranges := ⟨[(0x9, 0xD), (0x20, 0x20)]⟩

/-- The word characters of ASCII. -/
def asciiWords : Ranges := ⟨[(0x30, 0x39), (0x41, 0x5A), (0x5F, 0x5F), (0x61, 0x7A)]⟩

/-- The decimal digits of all scripts. -/
def digits : Ranges := Letter.digits

/-- The blanks of all scripts. -/
def blanks : Ranges := Blank.blanks

/-- The word characters of all scripts. -/
def words : Ranges := (Letter.alphabetic.union Word.marks).union asciiWords

end CharSet

end Timephrase
