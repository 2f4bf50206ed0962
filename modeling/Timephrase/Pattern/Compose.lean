import Timephrase.Pattern.Basic

/-!
# Patterns from their parts

Rows, alternatives and repetitions of nodes, brought into a plain form: rows and alternatives are
not nested in themselves, single characters to choose from are one set, a row that all alternatives
start with is put in front of them, and nothing is repeated that need not be.  What alternatives have
in common is matched only once, so that a later alternative is tried with every way through the
common part before an earlier one is tried with the next way.  Characters that stand next to each
other in a row make a literal, which alternatives have in common as a whole or not at all.

## Main definitions

* `Pattern.Node.row`: nodes one after another
* `Pattern.Node.pieces`: the literals and other nodes of a row
* `Pattern.Node.choice`: nodes to choose from
* `Pattern.Node.multiple`: a node some number of times
-/

namespace Timephrase.Pattern.Node

/-- The nodes of a row, none of them a row. -/
def items : Node → List Node
  | empty => []
  | seq first second => first.items ++ second.items
  | node => [node]

/-- The nodes to choose from, none of them a choice. -/
def branches : Node → List Node
  | alt first second => first.branches ++ second.branches
  | node => [node]

/-- A row of nodes that are no rows. -/
def ofItems : List Node → Node
  | [] => empty
  | node :: nodes => nodes.foldl seq node

/-- A choice between nodes that are no choices. -/
def ofBranches : List Node → Node
  | [] => set .none
  | [node] => node
  | node :: nodes => alt node (ofBranches nodes)

/-- Nodes one after another. -/
def row (nodes : List Node) : Node := ofItems (nodes.flatMap items)

/-! ## Choice -/

/-- The set of a node that matches a single character. -/
def set? : Node → Option CharSet
  | set s => some s
  | _ => none

/-- Whether a node matches one character and no other. -/
def isLiteral (node : Node) : Bool := node.set?.any fun s => s.single?.isSome

/-- The nodes of a row in pieces: literals, and other nodes by themselves. -/
def pieces (nodes : List Node) : List (List Node) :=
  nodes.splitBy fun node next => node.isLiteral && next.isLiteral

/-- The number of pieces at the start of two rows that are the same. -/
def commonLength : List (List Node) → List (List Node) → Nat
  | piece :: pieces, piece' :: pieces' =>
    if piece = piece' then commonLength pieces pieces' + 1 else 0
  | _, _ => 0

/-- The number of pieces that some rows all start with, if each row has two pieces or more. -/
def sharedLength : List (List (List Node)) → Nat
  | first :: other :: rows =>
    if (first :: other :: rows).any (·.length < 2) then 0
    else (other :: rows).foldl (fun n row => min n (commonLength first row)) first.length
  | _ => 0

/-- A choice between nodes.  If all match a single character they make one set, unless some of them
are literals and others are not. -/
def plainChoice (nodes : List Node) : Node :=
  let nodes := nodes.flatMap branches
  match nodes.mapM set? with
  | some (s :: t :: sets) =>
    if nodes.all isLiteral || nodes.all (!·.isLiteral) then
      set (.ofRanges false ((t :: sets).foldl (fun r s => r.union s.ranges) s.ranges))
    else ofBranches nodes
  | _ => ofBranches nodes

/-- A choice between nodes, what they all start with put in front. -/
def choice (nodes : List Node) : Node :=
  let rows := (nodes.flatMap branches).map fun node => pieces node.items
  let n := sharedLength rows
  if n = 0 then plainChoice nodes
  else
    row (((rows.headD []).take n).flatten ++
      [plainChoice (rows.map fun pieces => row (pieces.drop n).flatten)])

/-! ## Repetition -/

/-- A node between `least` and `greatest` times.  What matches the empty text alone is not repeated. -/
def multiple (least : Nat) (greatest : Option Nat) (greedy : Bool) (node : Node) : Node :=
  let (least, greatest) :=
    if node.greatestLength? = some 0 then (min least 1, some (min (greatest.getD 1) 1))
    else (least, greatest)
  match least, greatest, node with
  | _, some 0, _ => empty
  | 1, some 1, node => node
  | _, _, set s => run s least greatest greedy
  | _, _, node => times node least greatest greedy

end Timephrase.Pattern.Node
