import Timephrase.Pattern.Escape

/-!
# Bracketed sets of written patterns

Square brackets hold characters, ranges, escapes, named ASCII classes and further brackets; a caret
at the start takes the complement.  Two sets may be joined by `&&` for what both have, `--` for what
only the first has, and `~~` for what just one of them has; joined sets are grouped to the left.

## Main definitions

* `Bracket.namedClass?`: the ASCII classes
* `Bracket.Piece`: a set that has been read, and how deep it nests
* `Bracket.read`: the set after an opening bracket
-/

namespace Timephrase.Pattern.Bracket

/-- How two sets are joined. -/
inductive Join
  | inter
  | diff
  | symmDiff
  deriving DecidableEq, Repr

/-- Two sets joined; where letter case is ignored, it is ignored in each of them. -/
def Join.apply (flags : Flags) (r s : Ranges) : Join → Ranges
  | inter => (flags.fold r).inter (flags.fold s)
  | diff => (flags.fold r).diff (flags.fold s)
  | symmDiff => (flags.fold r).symmDiff (flags.fold s)

/-- A set that has been read, and how deep brackets, joins and rows of items nest in it. -/
structure Piece where
  ranges : Ranges
  depth : Nat

/-- The items of a set read so far: their number, the set they make, and how deep they nest. -/
structure Items where
  count : Nat
  ranges : Ranges
  depth : Nat

namespace Items

/-- No items. -/
def none : Items := ⟨0, .empty, 0⟩

/-- The items with one more. -/
def add (items : Items) (r : Ranges) (depth : Nat) : Items :=
  ⟨items.count + 1, items.ranges.union r, max items.depth depth⟩

/-- The set that the items make.  Two items or more are a level of their own. -/
def piece (items : Items) : Piece :=
  ⟨items.ranges, if items.count < 2 then items.depth else items.depth + 1⟩

end Items

/-- A set joined to the one that is waiting on its left. -/
def close (flags : Flags) (waiting : Option (Join × Piece)) (items : Items) : Piece :=
  let piece := items.piece
  match waiting with
  | none => piece
  | some (join, left) =>
    ⟨join.apply flags left.ranges piece.ranges, max left.depth piece.depth + 1⟩

/-- The ASCII classes by name. -/
def namedClass? (name : String) : Option Ranges :=
  (table.lookup name).map fun ranges =>
    ⟨ranges.map fun (first, last) => (first.toNat, last.toNat)⟩
where
  /-- The ranges of each class. -/
  table : List (String × List (Char × Char)) := [
    ("alnum", [('0', '9'), ('A', 'Z'), ('a', 'z')]),
    ("alpha", [('A', 'Z'), ('a', 'z')]),
    ("ascii", [('\x00', '\x7f')]),
    ("blank", [('\t', '\t'), (' ', ' ')]),
    ("cntrl", [('\x00', '\x1f'), ('\x7f', '\x7f')]),
    ("digit", [('0', '9')]),
    ("graph", [('!', '~')]),
    ("lower", [('a', 'z')]),
    ("print", [(' ', '~')]),
    ("punct", [('!', '/'), (':', '@'), ('[', '\x60'), ('\x7b', '~')]),
    ("space", [('\t', '\r'), (' ', ' ')]),
    ("upper", [('A', 'Z')]),
    ("word", [('0', '9'), ('A', 'Z'), ('_', '_'), ('a', 'z')]),
    ("xdigit", [('0', '9'), ('A', 'F'), ('a', 'f')])]

/-- A set with letter case ignored if it is to be, and then perhaps its complement. -/
def foldAndNegate (flags : Flags) (negated : Bool) (r : Ranges) : Except PatternFault Ranges :=
  if negated then flags.negate (flags.fold r) else .ok (flags.fold r)

/-- The named class after an opening bracket inside another, with what follows it. -/
def named? (cs : List Char) : Option (Bool × Ranges × List Char) :=
  match cs with
  | ':' :: cs =>
    let (negated, cs) := match cs with
      | '^' :: cs => (true, cs)
      | _ => (false, cs)
    let name := cs.takeWhile (· != ':')
    match cs.drop name.length with
    | ':' :: ']' :: rest =>
      (namedClass? (String.ofList name)).map fun r => (negated, r, rest)
    | _ => none
  | _ => none

/-- One character or escape of a set. -/
def readItem (flags : Flags) : List Char → Except PatternFault (Primitive × List Char)
  | [] => .error .unclosedSet
  | '\\' :: cs => Escape.read flags cs
  | c :: cs => .ok (.literal c false, cs)

/-- The code point of a character that a set may hold: any one, or outside Unicode one of ASCII. -/
def member (flags : Flags) (c : Char) : Except PatternFault Nat :=
  if flags.unicode || c.toNat < 128 then .ok c.toNat else .error .partOfCharacter

/-- What one item adds to a set. -/
def itemRanges (flags : Flags) : Primitive → Except PatternFault Ranges
  | .literal c _ => (member flags c).map Ranges.single
  | .set r => .ok r
  | .look _ => .error .badSetItem

/-- The range between two items. -/
def between (flags : Flags) : Primitive → Primitive → Except PatternFault Ranges
  | .literal first _, .literal last _ => do
    let first ← member flags first
    let last ← member flags last
    if first ≤ last then .ok (.range first last) else .error .badRange
  | _, _ => .error .badRange

/-- An item, or a range of which it is the start, with what follows it. -/
def readRange (flags : Flags) (cs : List Char) : Except PatternFault (Ranges × List Char) := do
  let (first, rest) ← readItem flags cs
  match flags.skip rest with
  | [] => .error .unclosedSet
  | '-' :: tail =>
    match flags.skip tail with
    | [] => .error .unclosedSet
    | c :: more =>
      if c = ']' ∨ c = '-' then .ok (← itemRanges flags first, '-' :: tail)
      else
        let (last, rest) ← readItem flags (c :: more)
        .ok (← between flags first last, rest)
  | rest => .ok (← itemRanges flags first, rest)

/-- The number of hyphens that a set starts with, which stand for themselves, with what follows them.
`inComment` says that a comment between them has begun. -/
def leadingHyphens (flags : Flags) : Nat → (inComment : Bool) → List Char → Nat × List Char
  | count, _, [] => (count, [])
  | count, true, c :: cs => leadingHyphens flags count (c != '\n') cs
  | count, false, c :: cs =>
    if c = '-' then leadingHyphens flags (count + 1) false cs
    else if count ≠ 0 ∧ flags.ignores c then leadingHyphens flags count false cs
    else if count ≠ 0 ∧ flags.verbose ∧ c = '#' then leadingHyphens flags count true cs
    else (count, c :: cs)

/-- What stands before the items of a set: the caret of a complement, and hyphens or a closing
bracket that stand for themselves. -/
def opening (flags : Flags) (cs : List Char) : Bool × Items × List Char :=
  let cs := flags.skip cs
  let (negated, cs) := match cs with
    | '^' :: cs => (true, flags.skip cs)
    | _ => (false, cs)
  match leadingHyphens flags 0 false cs with
  | (0, ']' :: cs) => (negated, Items.none.add (.single ']'.toNat) 0, cs)
  | (0, cs) => (negated, .none, cs)
  | (count, cs) => (negated, ⟨count, .single '-'.toNat, 0⟩, cs)

mutual

/-- The set after an opening bracket, with what follows its closing bracket. -/
def read (flags : Flags) : Nat → List Char → Except PatternFault (Piece × List Char)
  | 0, _ => .error .tooDeep
  | fuel + 1, cs => do
    let (negated, start, cs) := opening flags cs
    let (piece, rest) ← readItems flags fuel none start cs
    .ok (⟨← foldAndNegate flags negated piece.ranges, piece.depth + 1⟩, rest)

/-- The items up to the closing bracket, added to what has been read, and joined at the end to the
set that is waiting. -/
def readItems (flags : Flags) : Nat → Option (Join × Piece) → Items → List Char →
    Except PatternFault (Piece × List Char)
  | 0, _, _, _ => .error .tooDeep
  | fuel + 1, waiting, items, cs => do
    match flags.skip cs with
    | [] => .error .unclosedSet
    | ']' :: rest => .ok (close flags waiting items, rest)
    | '[' :: rest =>
      match named? rest with
      | some (negated, r, rest) =>
        readItems flags fuel waiting (items.add (← foldAndNegate flags negated r) 0) rest
      | none =>
        let (piece, rest) ← read flags fuel rest
        readItems flags fuel waiting (items.add piece.ranges piece.depth) rest
    | '&' :: '&' :: rest =>
      readItems flags fuel (some (.inter, close flags waiting items)) .none rest
    | '-' :: '-' :: rest =>
      readItems flags fuel (some (.diff, close flags waiting items)) .none rest
    | '~' :: '~' :: rest =>
      readItems flags fuel (some (.symmDiff, close flags waiting items)) .none rest
    | cs =>
      let (r, rest) ← readRange flags cs
      readItems flags fuel waiting (items.add r 0) rest

end

end Timephrase.Pattern.Bracket
