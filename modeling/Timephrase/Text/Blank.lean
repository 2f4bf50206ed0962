import Timephrase.Text.Ranges

/-!
# Blanks

The blank characters of all scripts, and texts without the blanks that do not matter.

## Main definitions

* `Blank.isBlank`: the blank characters
* `Blank.collapse`: every run of blanks made one space
* `Blank.trim`: a text without the blanks at its ends
-/

namespace Timephrase.Blank

/-- The blank characters: space, tabs, line ends, and the blanks of Unicode. -/
def blanks : Ranges := ⟨[(0x9, 0xD), (0x20, 0x20), (0x85, 0x85), (0xA0, 0xA0), (0x1680, 0x1680),
  (0x2000, 0x200A), (0x2028, 0x2029), (0x202F, 0x202F), (0x205F, 0x205F), (0x3000, 0x3000)]⟩

/-- Whether a character is blank. -/
def isBlank (c : Char) : Bool := blanks.contains c.toNat

/-- Every run of blanks made one space. -/
def collapse : List Char → List Char
  | [] => []
  | c :: cs =>
    if isBlank c then
      if (cs.head?.any isBlank) then collapse cs else ' ' :: collapse cs
    else c :: collapse cs

/-- The characters without the blanks at either end. -/
def trimChars (cs : List Char) : List Char :=
  ((cs.dropWhile isBlank).reverse.dropWhile isBlank).reverse

/-- A text without the blanks at either end. -/
def trim (text : String) : String := String.ofList (trimChars text.toList)

@[simp] theorem collapse_nil : collapse [] = [] := rfl

theorem isBlank_space : isBlank ' ' = true := by decide

end Timephrase.Blank
