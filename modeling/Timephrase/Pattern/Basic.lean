import Timephrase.Pattern.CharSet

/-!
# Patterns

A pattern describes pieces of text.  Its nodes match a single character of a set, a condition on
the characters around a position, runs of characters, sequences, alternatives of which the earlier
are preferred, repetitions, and groups that record the piece they matched.

## Main definitions

* `Look`: conditions on a position
* `Pattern.Node`: the nodes
* `Pattern`: a node with its source text and the names of its groups
-/

namespace Timephrase

/-- Which side of a word a position has to be on. -/
inductive WordEdge
  | boundary
  | interior
  | start
  | stop
  | startHalf
  | stopHalf
  deriving DecidableEq, Repr

/-- A condition on the characters before and after a position. -/
inductive Look
  | textStart
  | textEnd
  | lineStart
  | lineEnd
  | lineStartAny
  | lineEndAny
  | word (edge : WordEdge) (ascii : Bool)
  deriving DecidableEq, Repr

namespace WordEdge

/-- Whether a position is on the side of a word that is asked for, given whether word characters
stand before and after it. -/
def holds : WordEdge → (before after : Bool) → Bool
  | boundary, before, after => before != after
  | interior, before, after => before == after
  | start, before, after => !before && after
  | stop, before, after => before && !after
  | startHalf, before, _ => !before
  | stopHalf, _, after => !after

end WordEdge

namespace Look

/-- Whether a condition holds between two characters, either of which may be missing.  A line end
is a line feed, or for `lineStartAny` and `lineEndAny` also a carriage return, the two together
counting as one. -/
def holds : Look → (before after : Option Char) → Bool
  | textStart, before, _ => before.isNone
  | textEnd, _, after => after.isNone
  | lineStart, before, _ => before.all (· == '\n')
  | lineEnd, _, after => after.all (· == '\n')
  | lineStartAny, before, after =>
    before.all (· == '\n') || (before == some '\r' && after != some '\n')
  | lineEndAny, before, after =>
    after.all (· == '\r') || (after == some '\n' && before != some '\r')
  | word edge ascii, before, after =>
    let isWord := if ascii then Word.isAsciiWord else Word.isWord
    edge.holds (before.any isWord) (after.any isWord)

end Look

namespace Pattern

/-- A node of a pattern.  `run` repeats a single character of a set, `times` any other node; both do
so at least and at most as often as they say, and prefer more to fewer if they are greedy. -/
inductive Node
  | empty
  | set (s : CharSet)
  | run (s : CharSet) (least : Nat) (greatest : Option Nat) (greedy : Bool)
  | look (l : Look)
  | group (index : Nat) (body : Node)
  | seq (first second : Node)
  | alt (first second : Node)
  | times (body : Node) (least : Nat) (greatest : Option Nat) (greedy : Bool)
  deriving DecidableEq, Repr, Inhabited

namespace Node

/-- The least number of characters that a node matches, or nothing if one of its parts can match
nothing at all, not even the empty text. -/
def leastLength? : Node → Option Nat
  | empty => some 0
  | set s => if s.isEmpty then none else some 1
  | run s least _ _ => if s.isEmpty then none else some least
  | look _ => some 0
  | group _ body => body.leastLength?
  | seq first second => do return (← first.leastLength?) + (← second.leastLength?)
  | alt first second => do return min (← first.leastLength?) (← second.leastLength?)
  | times body least _ _ => do return (← body.leastLength?) * least

/-- The greatest number of characters that a node matches, if there is one. -/
def greatestLength? : Node → Option Nat
  | empty => some 0
  | set s => if s.isEmpty then none else some 1
  | run s _ greatest _ => if s.isEmpty then none else greatest
  | look _ => some 0
  | group _ body => body.greatestLength?
  | seq first second => do return (← first.greatestLength?) + (← second.greatestLength?)
  | alt first second => do return max (← first.greatestLength?) (← second.greatestLength?)
  | times body _ greatest _ => do return (← body.greatestLength?) * (← greatest)

/-- Whether a node has to be taken to match the empty text. -/
def mayBeEmpty (node : Node) : Bool := node.leastLength?.getD 0 == 0

end Node

end Pattern

/-- A pattern that has been read: its source text, its node, and the named groups with their
numbers, in the order in which they open. -/
structure Pattern where
  source : String
  node : Pattern.Node
  names : List (String × Nat)
  deriving DecidableEq, Repr

end Timephrase
