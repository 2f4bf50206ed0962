import Timephrase.Pattern.Basic
import Timephrase.Pattern.Places
import Timephrase.Span

/-!
# Matching

Matching prefers the earliest start, and at one start the way that a pattern tries first: earlier
alternatives before later ones, more repetitions before fewer, or fewer before more where a
repetition asks for it.  A way through a pattern never comes back to a fork that it has passed since
it last moved on in the text, so that what matches nothing is not repeated for ever.  A node is read
as the list of the places where it can stop, in order of preference.  Which way leads to a place
does not matter for what can follow, so each place is listed once, with the first way to it.

## Main definitions

* `Pattern.Cursor`: a place in a text
* `Pattern.Progress`: a place, and the groups and forks on the way to it
* `Pattern.Node.stops`: the places where a node can stop, the preferred one first
* `Pattern.findAll`: the matches in a text that do not overlap, from left to right
-/

namespace Timephrase.Pattern

/-- A place in a text: its position in bytes, the character before it and the characters after. -/
structure Cursor where
  offset : Nat
  before : Option Char
  rest : List Char
  deriving DecidableEq, Repr, Inhabited

namespace Cursor

/-- The start of a text. -/
def ofText (text : String) : Cursor := ⟨0, none, text.toList⟩

/-- The place after the next character. -/
def next (offset : Nat) (c : Char) (rest : List Char) : Cursor :=
  ⟨offset + c.utf8Size, some c, rest⟩

/-- A place and every later one, given the characters between. -/
def onward : Nat → Option Char → List Char → List Cursor
  | offset, before, [] => [⟨offset, before, []⟩]
  | offset, before, c :: rest =>
    ⟨offset, before, c :: rest⟩ :: onward (offset + c.utf8Size) (some c) rest

/-- Every place in a text, from its start to its end. -/
def all (text : String) : List Cursor := onward 0 none text.toList

/-- A place and those after one, two and more characters of a set, at most `limit` of them. -/
def run (s : CharSet) : Nat → Nat → Option Char → List Char → List Cursor
  | 0, offset, before, rest => [⟨offset, before, rest⟩]
  | _ + 1, offset, before, [] => [⟨offset, before, []⟩]
  | limit + 1, offset, before, c :: rest =>
    ⟨offset, before, c :: rest⟩ ::
      if s.mem c then run s limit (offset + c.utf8Size) (some c) rest else []

end Cursor

/-! ## Ways -/

/-- A turn on the way from a repetition to something inside it: into the first or the second part of
a pair, into a copy of a body, or to a fork of the repetition's own, before a copy of its body or
after the last one. -/
inductive Turn
  | first
  | second
  | body (copy : Nat)
  | before (copy : Nat)
  | after
  deriving DecidableEq, Repr

/-- A point of a pattern inside a repetition, given by the turns that lead to it, the last first, and
their number, which tells most points apart. -/
structure Point where
  depth : Nat
  turns : List Turn
  deriving DecidableEq, Repr, Inhabited

namespace Point

/-- The repetition itself. -/
def start : Point := ⟨0, []⟩

/-- The point after one more turn. -/
def turn (point : Point) (t : Turn) : Point := ⟨point.depth + 1, t :: point.turns⟩

end Point

/-- A place, the latest span of each group recorded on the way to it, and the forks that the way has
come past since it last moved on in the text. -/
structure Progress where
  cursor : Cursor
  groups : List (Nat × Span)
  passed : List Point
  deriving DecidableEq, Repr, Inhabited

namespace Progress

/-- The position in bytes. -/
def offset (p : Progress) : Nat := p.cursor.offset

/-- The progress with a group recorded from `start` to where it stands. -/
def record (p : Progress) (index start : Nat) : Progress :=
  { p with groups := (index, ⟨start, p.offset⟩) :: p.groups }

/-- The progress past a fork, if the way has not been there since it last moved on.  Outside of
repetitions a way cannot come back, and no forks are kept. -/
def past? (fork : Option Point) (p : Progress) : Option Progress :=
  match fork with
  | none => some p
  | some fork =>
    if p.passed.contains fork then none else some { p with passed := fork :: p.passed }

/-- The first way to each place that has not been seen. -/
def firstUnseen : Places → List Progress → List Progress
  | _, [] => []
  | seen, p :: ps =>
    if seen.contains p.offset then firstUnseen seen ps
    else p :: firstUnseen (seen.insert p.offset) ps

/-- The first way to each place. -/
def firstWays (ps : List Progress) : List Progress := firstUnseen .none ps

/-- Every way on from every way so far, in order of preference. -/
def onward (ps : List Progress) (f : Progress → List Progress) : List Progress :=
  match ps with
  | [] => []
  | [p] => f p
  | ps => firstWays (ps.flatMap f)

/-- The ways that do more, and the one that stops here, which is preferred unless the choice is
greedy. -/
def prefer (greedy : Bool) (more : List Progress) (here : Progress) : List Progress :=
  firstWays (if greedy then more ++ [here] else here :: more)

end Progress

/-! ## Repetition

The body of a repetition is copied as often as it has to match, and once for each further time that
it may match, or, where there is no limit, a last copy is matched again and again.  Before each copy
that may be left out, and after one that may be matched again, there is a fork.  A fork that is come
to twice at one place leads no further the second time than it did the first. -/

/-- The ways of a repetition that have been found, the preferred one last, and for each fork the
places where it was come to. -/
structure Search where
  met : List Places
  ways : List Progress

namespace Search

/-- The places of one fork after it was come to at another. -/
def meetAt : List Places → Nat → Nat → List Places
  | [], 0, offset => [Places.none.insert offset]
  | [], fork + 1, offset => .none :: meetAt [] fork offset
  | places :: more, 0, offset => places.insert offset :: more
  | places :: more, fork + 1, offset => places :: meetAt more fork offset

/-- The search after a fork was come to, if that is the first time at that place. -/
def meet? (s : Search) (fork offset : Nat) : Option Search :=
  if (s.met.getD fork .none).contains offset then none
  else some { s with met := meetAt s.met fork offset }

/-- The search with one more way found. -/
def stop (s : Search) (p : Progress) : Search := { s with ways := p :: s.ways }

/-- The ways that are found from some places, one after the other. -/
def collect (search : Progress → Search → Search) (ps : List Progress) : List Progress :=
  Progress.firstWays (ps.foldl (fun s p => search p s) ⟨[], []⟩).ways.reverse

end Search

section Repetition

variable (body : Nat → Progress → List Progress) (before : Nat → Progress → Option Progress)
variable (after : Progress → Option Progress) (greedy : Bool)

/-- The next `n` copies. -/
def exactly : Nat → Nat → List Progress → List Progress
  | _, 0, ps => ps
  | copy, n + 1, ps => exactly (copy + 1) n (Progress.onward ps (body copy))

/-- Up to `n` of the next copies; `fork` counts those that have been left behind. -/
def atMost : Nat → Nat → Nat → Progress → Search → Search
  | _, _, 0, p, s => s.stop p
  | copy, fork, n + 1, p, s =>
    match before copy p with
    | none => s
    | some p =>
      match s.meet? fork p.offset with
      | none => s
      | some s =>
        let more := fun s => (body copy p).foldl (fun s q => atMost (copy + 1) (fork + 1) n q s) s
        if greedy then (more s).stop p else more (s.stop p)

/-- A copy any number of times, with one fork at which it is done again or left; `fuel` bounds the
times that the fork is come to. -/
def anyTimes (copy : Nat) (atFork : Progress → Option Progress) : Nat → Progress → Search → Search
  | 0, _, s => s
  | fuel + 1, p, s =>
    match atFork p with
    | none => s
    | some p =>
      match s.meet? 0 p.offset with
      | none => s
      | some s =>
        let more := fun s => (body copy p).foldl (fun s q => anyTimes copy atFork fuel q s) s
        if greedy then (more s).stop p else more (s.stop p)

/-- A copy once or more. -/
def atLeastOnce (copy : Nat) (ps : List Progress) : List Progress :=
  Search.collect (fun p => anyTimes body greedy copy after (p.cursor.rest.length + 2) p)
    (Progress.onward ps (body copy))

/-- The body between `least` and `greatest` times. -/
def repeated (mayBeEmpty : Bool) (least : Nat) (greatest : Option Nat) (p : Progress) :
    List Progress :=
  match greatest, least with
  | some n, _ =>
    let ps := exactly body 0 least [p]
    if n = least then ps else Search.collect (atMost body before greedy least 0 (n - least)) ps
  | none, 0 =>
    if mayBeEmpty then
      match before 0 p with
      | none => []
      | some p => Progress.prefer greedy (atLeastOnce body after greedy 0 [p]) p
    else Search.collect (anyTimes body greedy 0 (before 0) (p.cursor.rest.length + 2)) [p]
  | none, k + 1 => atLeastOnce body after greedy k (exactly body 0 k [p])

end Repetition

/-! ## Nodes -/

namespace Node

/-- The place after a character of a set. -/
def stopsOfSet (s : CharSet) (p : Progress) : List Progress :=
  match p.cursor.rest with
  | [] => []
  | c :: rest => if s.mem c then [⟨.next p.offset c rest, p.groups, []⟩] else []

/-- The places after a run of characters of a set. -/
def stopsOfRun (s : CharSet) (least : Nat) (greatest : Option Nat) (greedy : Bool) (p : Progress) :
    List Progress :=
  let c := p.cursor
  let places := (Cursor.run s (greatest.getD c.rest.length) c.offset c.before c.rest).drop least
  (if greedy then places.reverse else places).map fun c => ⟨c, p.groups, []⟩

/-- The places where a node can stop, the preferred one first.  The node stands at a point inside a
repetition whose body may match nothing, or outside of all such repetitions. -/
def stops : Option Point → Node → Progress → List Progress
  | _, empty, p => [p]
  | _, set s, p => stopsOfSet s p
  | none, run s least greatest greedy, p => stopsOfRun s least greatest greedy p
  | some point, run s least greatest greedy, p =>
    repeated (fun _ => stopsOfSet s) (fun copy => Progress.past? (some (point.turn (.before copy))))
      (Progress.past? (some (point.turn .after))) greedy false least greatest p
  | _, look l, p => if l.holds p.cursor.before p.cursor.rest.head? then [p] else []
  | point, group index body, p => (stops point body p).map fun q => q.record index p.offset
  | point, seq first second, p =>
    Progress.onward (stops (point.map (·.turn .first)) first p)
      (stops (point.map (·.turn .second)) second)
  | point, alt first second, p =>
    match p.past? point with
    | none => []
    | some p =>
      Progress.firstWays (stops (point.map (·.turn .first)) first p ++
        stops (point.map (·.turn .second)) second p)
  | point, times body least greatest greedy, p =>
    let inside := if greatest.isNone && body.mayBeEmpty then some (point.getD .start) else point
    repeated (fun copy => stops (inside.map (·.turn (.body copy))) body)
      (fun copy => Progress.past? (inside.map (·.turn (.before copy))))
      (Progress.past? (inside.map (·.turn .after))) greedy body.mayBeEmpty least greatest
      (if point.isNone then { p with passed := [] } else p)

end Node

/-! ## Matches -/

/-- A match: its span and the spans of the groups that took part, latest first. -/
structure Match where
  span : Span
  groups : List (Nat × Span)
  deriving DecidableEq, Repr, Inhabited

/-- The preferred match that starts at a place. -/
def matchAt? (node : Node) (c : Cursor) : Option Match :=
  (node.stops none ⟨c, [], []⟩).head?.map fun p => ⟨⟨c.offset, p.offset⟩, p.groups⟩

/-- The matches that start at one of some places, in order.  After a match that stops at `floor` the
next one starts there or later, and an empty match right there is passed over. -/
def matchesFrom (node : Node) : Option Nat → List Cursor → List Match
  | _, [] => []
  | floor, c :: cs =>
    if floor.any (c.offset < ·) then matchesFrom node floor cs
    else
      match matchAt? node c with
      | none => matchesFrom node floor cs
      | some m =>
        if m.span.isEmpty && floor == some c.offset then matchesFrom node floor cs
        else m :: matchesFrom node (some m.span.stop) cs

/-- The matches of a pattern in a text, from left to right, none overlapping another. -/
def findAll (p : Pattern) (text : String) : List Match :=
  matchesFrom p.node none (Cursor.all text)

/-- The number of a named group. -/
def groupIndex? (p : Pattern) (name : String) : Option Nat := p.names.lookup name

/-- The span of a group in a match, if the group took part in it. -/
def Match.group? (m : Match) (index : Nat) : Option Span := m.groups.lookup index

end Timephrase.Pattern
