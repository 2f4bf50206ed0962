import Timephrase.Text.Ranges

/-!
# Spelling of characters in bytes

The bytes that spell the characters of a range are written as rows of byte ranges: a row stands for
all spellings that take one byte from each of its ranges.  Every spelling is a leading byte and up to
three more, which are digits to base 64.

## Main definitions

* `Spelling.Row`: the rows
* `Spelling.rows`: the rows that spell the characters of a set, in order
-/

namespace Timephrase.Spelling

/-- A range of bytes, both ends included. -/
abbrev ByteRange := Nat × Nat

/-- A row of byte ranges. -/
abbrev Row := List ByteRange

/-- The rows that spell the numbers from `lo` to `hi` in a leading byte, which is `lead` and the
first digit, and `n` more.  Numbers that share their first digit, where not all that do so are meant,
have rows of their own. -/
def rowsFrom : (lead n lo hi : Nat) → List Row
  | lead, 0, lo, hi => [[(lead + lo, lead + hi)]]
  | lead, n + 1, lo, hi =>
    let unit := 64 ^ (n + 1)
    let under (digit lo hi : Nat) :=
      (rowsFrom 0x80 n lo hi).map fun row => (lead + digit, lead + digit) :: row
    let first := lo / unit
    let stop := hi / unit + 1
    if first + 1 = stop then under first (lo % unit) (hi % unit)
    else
      let first' := if lo % unit = 0 then first else first + 1
      let stop' := if hi % unit + 1 = unit then stop else stop - 1
      (if first' = first then [] else under first (lo % unit) (unit - 1)) ++
        (if first' < stop' then
          [(lead + first', lead + stop' - 1) :: List.replicate (n + 1) (0x80, 0xBF)]
        else []) ++
        (if stop' = stop then [] else under (stop - 1) 0 (hi % unit))

/-- The characters whose spellings have the same length, up to the gap that surrogates leave: the
leading byte, the number of bytes after it, and the range. -/
def lengths : List (Nat × Nat × Nat × Nat) := [
  (0, 0, 0, 0x7F), (0xC0, 1, 0x80, 0x7FF), (0xE0, 2, 0x800, 0xD7FF), (0xE0, 2, 0xE000, 0xFFFF),
  (0xF0, 3, 0x10000, 0x10FFFF)]

/-- The rows that spell the characters of a range. -/
def rowsOfRange (range : Nat × Nat) : List Row :=
  lengths.flatMap fun (lead, n, first, last) =>
    match Ranges.overlap? range (first, last) with
    | some (lo, hi) => rowsFrom lead n lo hi
    | none => []

/-- The rows that spell the characters of a set, in order. -/
def rows (r : Ranges) : List Row := r.list.flatMap rowsOfRange

/-- The rows that start with the same range together, without that range. -/
def byFirst : List Row → List (ByteRange × List Row)
  | [] => []
  | [] :: rows => byFirst rows
  | (first :: row) :: rows =>
    match byFirst rows with
    | [] => [(first, [row])]
    | (first', rows') :: groups =>
      if first = first' then (first, row :: rows') :: groups
      else (first, [row]) :: (first', rows') :: groups

end Timephrase.Spelling
