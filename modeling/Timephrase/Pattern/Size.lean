import Timephrase.Pattern.Basic
import Timephrase.Pattern.Spelling

/-!
# The size of patterns

A pattern can be run by a machine that reads a text byte by byte, forward or backward.  The machine
has a state for each byte that it reads, each fork and each condition, and a copy of what is repeated
for each time that it may be repeated.  A pattern is refused if one of its two machines takes more
than ten mebibytes.

## Main definitions

* `CharSet.size`: the bytes of a machine for a set
* `Pattern.Node.size`: the bytes of a machine for a node
* `Pattern.Node.isTooLarge`: whether a pattern is refused
-/

namespace Timephrase

/-- Which way a machine reads. -/
inductive Reading
  | forward
  | backward
  deriving DecidableEq, Repr

/-- The bytes that a state takes. -/
def stateSize : Nat := 32

/-- The bytes that each way out of a fork takes. -/
def branchSize : Nat := 4

/-- The bytes that each range of bytes takes of which a state has several. -/
def rangeSize : Nat := 8

/-! ## Sets -/

namespace CharSet

open Spelling

/-- What is left to read at the states of a machine that spells some rows; `n` is at least the
length of the longest. -/
def leftToRead : Nat → List Row → List (List Row)
  | 0, _ => []
  | n + 1, rows =>
    rows :: ((byFirst rows).map Prod.snd).flatMap fun rest =>
      if rest = [[]] then [] else leftToRead n rest

/-- The bytes of a machine that reads rows forward, where states with the same left to read are the
same. -/
def forwardSize (rows : List Row) : Nat :=
  ((leftToRead 4 rows).eraseDups.map fun rest =>
    stateSize + rangeSize * (byFirst rest).length).foldl (· + ·) stateSize

/-- The number of ways in which rows start; `n` is at least the length of the longest. -/
def startCount : Nat → List Row → Nat
  | 0, _ => 0
  | n + 1, rows =>
    ((byFirst rows).map fun group => startCount n group.2 + 1).sum

/-- The bytes of a machine that reads rows backward: a fork between their ends, and a state for each
way in which rows start. -/
def backwardSize (rows : List Row) : Nat :=
  2 * stateSize + branchSize * rows.length + stateSize * startCount 4 rows

/-- The bytes of a machine for a set: for a single character a state for each of its bytes, and for
characters of ASCII one state for all. -/
def size (reading : Reading) (s : CharSet) : Nat :=
  match s.single? with
  | some n => stateSize * (Char.ofNat n).utf8Size
  | .none =>
    if s.ranges.list.all (·.2 < 128) then 2 * stateSize + rangeSize * s.ranges.list.length
    else
      match reading with
      | .forward => forwardSize (rows s.ranges)
      | .backward => backwardSize (rows s.ranges)

end CharSet

/-! ## Literals to choose from -/

namespace Pattern

/-- A word, as the list of its bytes. -/
abbrev Word := List Nat

/-- Words cut at those that are empty, of which several at the start count as one. -/
def cutAtEmpty (words : List Word) : List (List Word) :=
  let later := words.dropWhile List.isEmpty
  (if (words.head?.any List.isEmpty) then [[]] else []) ++
    later.foldr (fun word cuts =>
      match word, cuts with
      | [], cuts => [] :: cuts
      | word, cut :: cuts => (word :: cut) :: cuts
      | word, [] => [[word]]) [[]]

/-- The bytes of the states at and after the place where words part; `n` is at least the length of
the longest. -/
def partingSize : Nat → List Word → Nat
  | 0, _ => 0
  | n + 1, words =>
    if words.all List.isEmpty then 0
    else
      let cuts := cutAtEmpty words
      stateSize + branchSize * (cuts.length - 1) +
        (cuts.map fun cut =>
          let firsts := (cut.filterMap List.head?).eraseDups
          (if firsts.isEmpty then 0
            else branchSize + stateSize + (if firsts.length = 1 then 0 else rangeSize * firsts.length)) +
          (firsts.map fun first =>
            partingSize n ((cut.filter (·.head? = some first)).map List.tail)).sum).sum

/-- The bytes of a machine for literals to choose from, which share what they start with. -/
def wordsSize (words : List Word) : Nat :=
  stateSize + partingSize (words.foldl (fun n word => max n word.length) 0 + 1) words

/-! ## Nodes -/

/-- The bytes of a machine for something between `least` and `greatest` times, given those for doing
it once. -/
def repeatedSize (once : Nat) (mayBeEmpty : Bool) (least : Nat) (greatest : Option Nat) : Nat :=
  let fork := stateSize + 2 * branchSize
  match greatest with
  | some n =>
    if n = least then least * once
    else if n = 1 then fork + once + stateSize
    else
      (if least = 0 then stateSize else least * once) + stateSize + (n - least) * (fork + once)
  | none =>
    if least = 0 then (if mayBeEmpty then 2 * fork + stateSize + once else fork + once)
    else least * once + fork

namespace Node

/-- The bytes that spell a literal. -/
def word? : Node → Option Word
  | set s => s.single?.map fun n => (String.utf8EncodeChar (Char.ofNat n)).map UInt8.toNat
  | seq first second => do return (← first.word?) ++ (← second.word?)
  | _ => none

/-- The literals to choose from, if a node is a choice between literals. -/
def words? : Node → Option (List Word)
  | alt first second => do
    let words ← match first.words? with
      | some words => some words
      | none => first.word?.map ([·])
    let words' ← match second.words? with
      | some words => some words
      | none => second.word?.map ([·])
    return words ++ words'
  | _ => none

/-- Whether a node is a choice. -/
def isChoice : Node → Bool
  | alt _ _ => true
  | _ => false

/-- The bytes of a machine for a node, given those for the node or, if it is a choice, for its
branches. -/
def wholeSize (reading : Reading) (node : Node) (size : Nat) : Nat :=
  match node.words? with
  | some words => wordsSize (if reading = .backward then words.map List.reverse else words)
  | none => if node.isChoice then 2 * stateSize + size else size

/-- The bytes of a branch of a choice, given those for the node. -/
def branchSizeOf (node : Node) (size : Nat) : Nat :=
  if node.isChoice then size else branchSize + size

/-- The bytes of a machine for a node or, if it is a choice, for its branches.  A machine that reads
backward records no groups. -/
def partSize (reading : Reading) : Node → Nat
  | empty => stateSize
  | set s => s.size reading
  | run s least greatest _ => repeatedSize (s.size reading) s.isEmpty least greatest
  | look _ => stateSize
  | group _ body =>
    body.wholeSize reading (body.partSize reading) +
      if reading = .backward then 0 else 2 * stateSize
  | seq first second =>
    first.wholeSize reading (first.partSize reading) +
      second.wholeSize reading (second.partSize reading)
  | alt first second =>
    first.branchSizeOf (first.partSize reading) + second.branchSizeOf (second.partSize reading)
  | times body least greatest _ =>
    repeatedSize (body.wholeSize reading (body.partSize reading)) body.mayBeEmpty least greatest

/-- Whether every way through a node comes past a condition before it moves on, or for a machine that
reads backward after it has moved on for the last time. -/
def isBoundBy (l : Look) (reading : Reading) : Node → Bool
  | look l' => l = l'
  | group _ body => body.isBoundBy l reading
  | seq first second =>
    match reading with
    | .forward =>
      first.isBoundBy l reading ||
        (first.greatestLength? == some 0 && second.isBoundBy l reading)
    | .backward =>
      second.isBoundBy l reading ||
        (second.greatestLength? == some 0 && first.isBoundBy l reading)
  | alt first second => first.isBoundBy l reading && second.isBoundBy l reading
  | times body least _ _ => 0 < least && body.isBoundBy l reading
  | _ => false

/-- The bytes of a machine for a pattern.  Unless it can match at one end of a text alone, it starts
with a loop that passes over bytes. -/
def size (reading : Reading) (node : Node) : Nat :=
  let anchored := match reading with
    | .forward => node.isBoundBy .textStart reading
    | .backward => node.isBoundBy .textEnd reading
  let start :=
    if anchored then stateSize else repeatedSize (2 * stateSize + rangeSize) false 0 none
  start + (group 0 node).partSize reading + stateSize

/-- The bytes that a machine may take. -/
def greatestSize : Nat := 10 * Nat.pow 2 20

/-- Whether a pattern is refused for its size. -/
def isTooLarge (node : Node) : Bool :=
  greatestSize < node.size .forward || greatestSize < node.size .backward

end Node

end Pattern

end Timephrase
