import Timephrase.Pattern.Bracket
import Timephrase.Pattern.Compose
import Timephrase.Pattern.Size

/-!
# Reading written patterns

A written pattern is a list of alternatives, each a row of items: characters, escapes, bracketed
sets, groups, and flags that hold up to the end of the group they stand in.  An item may be followed
by a repetition.  Groups are numbered as they open, and may have a name of their own.

## Main definitions

* `Pattern.Reader.readAlternatives`: the nodes to choose from
* `Pattern.read`: the pattern that a text writes
-/

namespace Timephrase.Pattern

namespace Reader

/-- What is known when an item is read: the flags in force, and the groups opened so far. -/
structure Scope where
  flags : Flags
  groups : Nat
  names : List (String × Nat)
  deriving DecidableEq, Repr

/-! ## Characters -/

/-- The node of a set. -/
def setNode (flags : Flags) (r : Ranges) : Node := .set (.ofRanges (!flags.unicode) r)

/-- The node of one literal character. -/
def literalNode (flags : Flags) (c : Char) (byte : Bool) : Except PatternFault Node :=
  if byte && !flags.unicode && 128 ≤ c.toNat then .error .partOfCharacter
  else .ok (setNode flags (flags.fold (.single c.toNat)))

/-- The node of a character or an escape. -/
def primitiveNode (flags : Flags) : Primitive → Except PatternFault Node
  | .literal c byte => literalNode flags c byte
  | .set r => .ok (setNode flags r)
  | .look l => .ok (.look l)

/-- The node of the point: any character, up to the end of a line unless flags say otherwise. -/
def dotNode (flags : Flags) : Except PatternFault Node :=
  if !flags.unicode then .error .partOfCharacter
  else
    let lineEnds : Ranges :=
      if flags.dotAll then .empty
      else if flags.crlf then (Ranges.single '\r'.toNat).union (.single '\n'.toNat)
      else .single '\n'.toNat
    .ok (setNode flags lineEnds.complement)

/-- The condition of the caret. -/
def caret (flags : Flags) : Look :=
  if flags.multiLine then (if flags.crlf then .lineStartAny else .lineStart) else .textStart

/-- The condition of the dollar sign. -/
def dollar (flags : Flags) : Look :=
  if flags.multiLine then (if flags.crlf then .lineEndAny else .lineEnd) else .textEnd

/-! ## Repetitions -/

/-- The digits of a count, which start with none read so far. -/
def countDigits (flags : Flags) : Option Nat → List Char → Option Nat × List Char
  | n?, [] => (n?, [])
  | n?, c :: cs =>
    if c.isDigit then countDigits flags (some (10 * n?.getD 0 + (c.toNat - '0'.toNat))) cs
    else if flags.ignores c then countDigits flags n? cs
    else (n?, c :: cs)

/-- A count that fits a word of 32 bits, between blanks, with what follows it. -/
def readCount (flags : Flags) (cs : List Char) : Except PatternFault (Nat × List Char) :=
  match countDigits flags none (cs.dropWhile Blank.isBlank) with
  | (some n, rest) =>
    if n < Nat.pow 2 32 then .ok (n, rest.dropWhile Blank.isBlank) else .error .badCount
  | (none, _) => .error .badCount

/-- The least and greatest count of a repetition in braces, with what follows the closing brace. -/
def readCounts (flags : Flags) (cs : List Char) :
    Except PatternFault (Nat × Option Nat × List Char) := do
  let (least, rest) ← readCount flags (flags.skip cs)
  let (greatest, rest) ← match rest with
    | ',' :: rest =>
      match flags.skip rest with
      | '\x7d' :: rest => .ok (none, '\x7d' :: rest)
      | rest => (readCount flags rest).map fun (n, rest) => (some n, rest)
    | rest => .ok (some least, rest)
  match rest with
  | '\x7d' :: rest =>
    if greatest.all (least ≤ ·) then .ok (least, greatest, rest) else .error .badCount
  | _ => .error .badCount

/-- Whether a repetition is greedy, with what follows the mark that says it is not. -/
def readGreed (flags : Flags) : List Char → Bool × List Char
  | '?' :: rest => (flags.swapGreed, rest)
  | rest => (!flags.swapGreed, rest)

/-! ## Rows

A row is kept backwards while it is read.  Flags leave a gap in it, which nothing can repeat. -/

/-- A node that has been read, and how deep sets, groups, repetitions, rows and choices nest in it. -/
structure Item where
  node : Node
  depth : Nat

namespace Item

/-- A character, an escape or a condition. -/
def leaf (node : Node) : Item := ⟨node, 0⟩

/-- A node a level above what it is made from. -/
def above (item : Item) (node : Node) : Item := ⟨node, item.depth + 1⟩

/-- How deep nodes nest that stand together.  Two of them or more are a level of their own. -/
def depthOfAll (depths : List Nat) : Nat :=
  let depth := depths.foldl max 0
  if depths.length < 2 then depth else depth + 1

end Item

/-- The items in front of a repetition, the last of them repeated. -/
def repeatLast (least : Nat) (greatest : Option Nat) (greedy : Bool) :
    List (Option Item) → Except PatternFault (List (Option Item))
  | some item :: row =>
    .ok (some (item.above (item.node.multiple least greatest greedy)) :: row)
  | _ => .error .nothingToRepeat

/-- The item that a row makes. -/
def rowItem (row : List (Option Item)) : Item :=
  ⟨Node.row (row.reverse.filterMap (·.map Item.node)),
    Item.depthOfAll (row.map fun item => (item.map Item.depth).getD 0)⟩

/-- The item that alternatives make. -/
def choiceItem (items : List Item) : Item :=
  ⟨Node.choice (items.map Item.node), Item.depthOfAll (items.map Item.depth)⟩

/-! ## Groups -/

/-- Whether a character may stand in the name of a group. -/
def isNameChar (first : Bool) (c : Char) : Bool :=
  if first then c == '_' || Letter.isAlphabetic c
  else c == '_' || c == '.' || c == '[' || c == ']' || Letter.isAlphanumeric c

/-- The name of a group up to its closing angle bracket, with what follows it. -/
def readName (cs : List Char) : Except PatternFault (String × List Char) :=
  let name := cs.takeWhile (· != '>')
  match name, cs.drop name.length with
  | first :: more, '>' :: rest =>
    if isNameChar true first && more.all (isNameChar false) then .ok (String.ofList name, rest)
    else .error .badGroupName
  | _, _ => .error .badGroupName

/-- The flags with one of them set or cleared. -/
def setFlag (flags : Flags) (on : Bool) : Char → Except PatternFault Flags
  | 'i' => .ok { flags with anyCase := on }
  | 'm' => .ok { flags with multiLine := on }
  | 's' => .ok { flags with dotAll := on }
  | 'U' => .ok { flags with swapGreed := on }
  | 'u' => .ok { flags with unicode := on }
  | 'R' => .ok { flags with crlf := on }
  | 'x' => .ok { flags with verbose := on }
  | _ => .error .badFlags

/-- The flags up to a colon or a closing bracket, with the mark that ends them and what follows it.
`seen` holds the letters so far, the minus sign that clears all after it among them. -/
def readFlags (flags : Flags) : List Char → List Char →
    Except PatternFault (Flags × Bool × List Char)
  | _, [] => .error .badFlags
  | seen, c :: cs =>
    if c = ':' ∨ c = ')' then
      if seen.head? = some '-' ∨ (seen = [] ∧ c = ')') then .error .badFlags
      else .ok (flags, c == ':', cs)
    else if seen.contains c then .error .badFlags
    else if c = '-' then readFlags flags ('-' :: seen) cs
    else
      match setFlag flags (!seen.contains '-') c with
      | .ok flags => readFlags flags (c :: seen) cs
      | .error fault => .error fault

/-- What an opening bracket opens. -/
inductive Opening
  | directive (flags : Flags)
  | plain (flags : Flags)
  | numbered
  | named (name : String)
  deriving DecidableEq, Repr

/-- What an opening bracket opens, with what follows. -/
def readOpening (flags : Flags) (cs : List Char) :
    Except PatternFault (Opening × List Char) := do
  match flags.skip cs with
  | '?' :: '=' :: _ => .error .lookAround
  | '?' :: '!' :: _ => .error .lookAround
  | '?' :: '<' :: '=' :: _ => .error .lookAround
  | '?' :: '<' :: '!' :: _ => .error .lookAround
  | '?' :: 'P' :: '<' :: cs =>
    let (name, rest) ← readName cs
    .ok (.named name, rest)
  | '?' :: '<' :: cs =>
    let (name, rest) ← readName cs
    .ok (.named name, rest)
  | '?' :: cs =>
    let (flags, opens, rest) ← readFlags flags [] cs
    .ok (if opens then .plain flags else .directive flags, rest)
  | cs => .ok (.numbered, cs)

/-- The scope inside a group, and the number of the group if it has one. -/
def enter (scope : Scope) : Opening → Except PatternFault (Scope × Option Nat)
  | .directive flags => .ok ({ scope with flags }, none)
  | .plain flags => .ok ({ scope with flags }, none)
  | .numbered => .ok ({ scope with groups := scope.groups + 1 }, some (scope.groups + 1))
  | .named name =>
    if (scope.names.lookup name).isSome then .error .repeatedGroupName
    else
      .ok ({ scope with
        groups := scope.groups + 1
        names := scope.names ++ [(name, scope.groups + 1)] }, some (scope.groups + 1))

/-- The node of a group with a body. -/
def groupNode (number : Option Nat) (body : Node) : Node :=
  match number with
  | some index => .group index body
  | none => body

mutual

/-- Alternatives up to the end of a group or of the text. -/
def readAlternatives : Nat → Scope → List Char →
    Except PatternFault (List Item × Scope × List Char)
  | 0, _, _ => .error .tooDeep
  | fuel + 1, scope, cs => do
    let (first, scope, rest) ← readRow fuel scope [] cs
    match rest with
    | '|' :: rest =>
      let (others, scope, rest) ← readAlternatives fuel scope rest
      .ok (first :: others, scope, rest)
    | rest => .ok ([first], scope, rest)

/-- The rest of a row, after the items read so far. -/
def readRow : Nat → Scope → List (Option Item) → List Char →
    Except PatternFault (Item × Scope × List Char)
  | 0, _, _, _ => .error .tooDeep
  | fuel + 1, scope, row, cs => do
    match scope.flags.skip cs with
    | [] => .ok (rowItem row, scope, [])
    | c :: cs =>
      match c with
      | ')' => .ok (rowItem row, scope, c :: cs)
      | '|' => .ok (rowItem row, scope, c :: cs)
      | '(' =>
        let (opening, rest) ← readOpening scope.flags cs
        match opening with
        | .directive flags => readRow fuel { scope with flags } (none :: row) rest
        | opening =>
          let (inner, number) ← enter scope opening
          let (bodies, inner, rest) ← readAlternatives fuel inner rest
          match rest with
          | ')' :: rest =>
            let body := choiceItem bodies
            readRow fuel { inner with flags := scope.flags }
              (some (body.above (groupNode number body.node)) :: row) rest
          | _ => .error .unclosedGroup
      | '[' =>
        let (piece, rest) ← Bracket.read scope.flags fuel cs
        readRow fuel scope (some ⟨setNode scope.flags piece.ranges, piece.depth⟩ :: row) rest
      | '?' =>
        let (greedy, rest) := readGreed scope.flags cs
        readRow fuel scope (← repeatLast 0 (some 1) greedy row) rest
      | '*' =>
        let (greedy, rest) := readGreed scope.flags cs
        readRow fuel scope (← repeatLast 0 none greedy row) rest
      | '+' =>
        let (greedy, rest) := readGreed scope.flags cs
        readRow fuel scope (← repeatLast 1 none greedy row) rest
      | '\x7b' =>
        let (least, greatest, rest) ← readCounts scope.flags cs
        let (greedy, rest) := readGreed scope.flags (scope.flags.skip rest)
        readRow fuel scope (← repeatLast least greatest greedy row) rest
      | '.' => readRow fuel scope (some (.leaf (← dotNode scope.flags)) :: row) cs
      | '^' => readRow fuel scope (some (.leaf (.look (caret scope.flags))) :: row) cs
      | '$' => readRow fuel scope (some (.leaf (.look (dollar scope.flags))) :: row) cs
      | '\\' =>
        let (primitive, rest) ← Escape.read scope.flags cs
        readRow fuel scope (some (.leaf (← primitiveNode scope.flags primitive)) :: row) rest
      | c => readRow fuel scope (some (.leaf (← literalNode scope.flags c false)) :: row) cs

end

/-- The greatest depth to which sets, groups, repetitions, rows and choices may nest. -/
def greatestDepth : Nat := 250

end Reader

/-- The pattern that a text writes, letter case ignored if `anyCase` holds, and for all characters
or, without `unicode`, for ASCII. -/
def read (source : String) (anyCase unicode : Bool) : Except PatternFault Pattern := do
  let cs := source.toList
  let scope : Reader.Scope := ⟨.initial anyCase unicode, 0, []⟩
  let (items, scope, rest) ← Reader.readAlternatives (2 * cs.length + 2) scope cs
  let whole := Reader.choiceItem items
  if !rest.isEmpty then .error .unopenedGroup
  else if Reader.greatestDepth < whole.depth then .error .tooDeep
  else if whole.node.isTooLarge then .error .tooLarge
  else .ok ⟨source, whole.node, scope.names⟩

end Timephrase.Pattern
