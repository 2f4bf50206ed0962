import Timephrase.Pattern.Basic
import Timephrase.Pattern.Fault
import Timephrase.Property.Lookup

/-!
# Escapes of written patterns

A backslash starts an escape: a character that would have a meaning of its own, a code point, a
class of characters, or a condition on a position.  What classes and letter cases mean depends on
flags.  In particular a pattern that is not for Unicode knows ASCII alone, and must not be able to
match part of a character.

## Main definitions

* `Flags`: how the rest of a pattern is to be read
* `Primitive`: what one character or one escape of a pattern stands for
* `Escape.read`: the escape after a backslash
-/

namespace Timephrase.Pattern

/-- How the rest of a pattern is to be read. -/
structure Flags where
  anyCase : Bool
  multiLine : Bool
  dotAll : Bool
  swapGreed : Bool
  unicode : Bool
  crlf : Bool
  verbose : Bool
  deriving DecidableEq, Repr

namespace Flags

/-- The flags that a pattern starts with. -/
def initial (anyCase unicode : Bool) : Flags :=
  ⟨anyCase, false, false, false, unicode, false, false⟩

/-- The characters left when blanks, and comments up to the end of their line, are passed over. -/
def skipIgnored : Bool → List Char → List Char
  | _, [] => []
  | true, c :: cs => skipIgnored (c != '\n') cs
  | false, c :: cs =>
    if Blank.isBlank c then skipIgnored false cs
    else if c = '#' then skipIgnored true cs
    else c :: cs

/-- The characters left when those that a verbose pattern ignores are passed over. -/
def skip (flags : Flags) (cs : List Char) : List Char :=
  if flags.verbose then skipIgnored false cs else cs

/-- Whether a character is passed over between the digits of a number. -/
def ignores (flags : Flags) (c : Char) : Bool := flags.verbose && Blank.isBlank c

/-- Code points and, where letter case is ignored, all that differ from one in case alone. -/
def fold (flags : Flags) (r : Ranges) : Ranges :=
  if flags.anyCase then (if flags.unicode then Folding.anyCase r else Folding.anyAsciiCase r) else r

/-- The code points left out.  Outside Unicode that includes parts of characters. -/
def negate (flags : Flags) (r : Ranges) : Except PatternFault Ranges :=
  if flags.unicode then .ok r.complement else .error .partOfCharacter

end Flags

/-- What one character or one escape of a pattern stands for.  `byte` marks a code point that was
written in two hexadecimal digits. -/
inductive Primitive
  | literal (c : Char) (byte : Bool)
  | set (r : Ranges)
  | look (l : Look)
  deriving DecidableEq, Repr

namespace Escape

/-- The value of a hexadecimal digit. -/
def hexDigit? (c : Char) : Option Nat :=
  if c.isDigit then some (c.toNat - '0'.toNat)
  else if 'a' ≤ c ∧ c ≤ 'f' then some (c.toNat - 'a'.toNat + 10)
  else if 'A' ≤ c ∧ c ≤ 'F' then some (c.toNat - 'A'.toNat + 10)
  else none

/-- The character with a code point. -/
def character (n : Nat) : Except PatternFault Char :=
  if n.isValidChar then .ok (Char.ofNat n) else .error .badCodePoint

/-- Exactly `count` more hexadecimal digits. -/
def hexDigits (flags : Flags) : Nat → Nat → List Char → Except PatternFault (Nat × List Char)
  | 0, n, cs => .ok (n, cs)
  | _ + 1, _, [] => .error .endsInEscape
  | count + 1, n, c :: cs =>
    match hexDigit? c with
    | some d => hexDigits flags count (16 * n + d) cs
    | none => if flags.ignores c then hexDigits flags (count + 1) n cs else .error .badCodePoint

/-- Hexadecimal digits up to a closing brace, at least one of them. -/
def bracedHex (flags : Flags) : Option Nat → List Char → Except PatternFault (Nat × List Char)
  | _, [] => .error .endsInEscape
  | n?, c :: cs =>
    if c = '\x7d' then
      match n? with
      | some n => .ok (n, cs)
      | none => .error .badCodePoint
    else
      match hexDigit? c with
      | some d => bracedHex flags (some (16 * n?.getD 0 + d)) cs
      | none => if flags.ignores c then bracedHex flags n? cs else .error .badCodePoint

/-- A code point: `count` hexadecimal digits, or any number of them in braces. -/
def codePoint (flags : Flags) (count : Nat) (cs : List Char) :
    Except PatternFault (Primitive × List Char) := do
  match flags.skip cs with
  | '\x7b' :: cs =>
    let (n, rest) ← bracedHex flags none cs
    .ok (.literal (← character n) false, rest)
  | cs =>
    let (n, rest) ← hexDigits flags count 0 cs
    .ok (.literal (← character n) (count == 2), rest)

/-- The class of digits. -/
def digits (flags : Flags) : Ranges :=
  if flags.unicode then CharSet.digits else CharSet.asciiDigits

/-- The class of blanks. -/
def blanks (flags : Flags) : Ranges :=
  if flags.unicode then CharSet.blanks else CharSet.asciiBlanks

/-- The class of word characters. -/
def words (flags : Flags) : Ranges := if flags.unicode then CharSet.words else CharSet.asciiWords

/-- A condition on the words around a position. -/
def wordLook (flags : Flags) (edge : WordEdge) : Primitive := .look (.word edge !flags.unicode)

/-- The characters that name a side of a word in braces. -/
def isEdgeChar (c : Char) : Bool := c.isAlpha || c == '-'

/-- The side of a word that a name in braces asks for. -/
def edge? (name : String) : Option WordEdge :=
  if name = "start" then some .start
  else if name = "end" then some .stop
  else if name = "start-half" then some .startHalf
  else if name = "end-half" then some .stopHalf
  else none

/-- What follows the escape of a word boundary: a side of the word in braces, or nothing that
belongs to it. -/
def wordBoundary (flags : Flags) (cs : List Char) :
    Except PatternFault (Primitive × List Char) := do
  match cs with
  | '\x7b' :: inner =>
    match flags.skip inner with
    | [] => .error .unknownWordEdge
    | c :: more =>
      if isEdgeChar c then
        let letters := (c :: more).takeWhile fun c => isEdgeChar c || flags.ignores c
        let name := String.ofList (letters.filter isEdgeChar)
        match (c :: more).drop letters.length with
        | '\x7d' :: rest =>
          match edge? name with
          | some edge => .ok (wordLook flags edge, rest)
          | none => .error .unknownWordEdge
        | _ => .error .unknownWordEdge
      else .ok (wordLook flags .boundary, cs)
  | _ => .ok (wordLook flags .boundary, cs)

/-! ## Properties -/

/-- The characters of a name up to its closing brace, with what follows it.  A verbose pattern may
have blanks and comments in the name; `inComment` says that one has begun. -/
def bracedName (verbose : Bool) : Bool → List Char → Except PatternFault (List Char × List Char)
  | _, [] => .error .endsInEscape
  | true, c :: cs => bracedName verbose (c != '\n') cs
  | false, c :: cs =>
    if c = '\x7d' then .ok ([], cs)
    else if verbose && Blank.isBlank c then bracedName verbose false cs
    else if verbose && c == '#' then bracedName verbose true cs
    else (bracedName verbose false cs).map fun (name, rest) => (c :: name, rest)

/-- What stands before and after a sign inside a text, where the sign stands first. -/
def splitAtSign? (sign : List Char) : List Char → Option (List Char × List Char)
  | [] => none
  | c :: cs =>
    if sign.isPrefixOf (c :: cs) then some ([], (c :: cs).drop sign.length)
    else (splitAtSign? sign cs).map fun (before, after) => (c :: before, after)

/-- The characters that a query in braces asks for, and whether it asks for all others: a name, or
the name of a property and a value with a sign between them. -/
def query (cs : List Char) : Bool × Option Ranges :=
  let valued (before after : List Char) :=
    Property.valued? (String.ofList before) (String.ofList after)
  match splitAtSign? ['!', '='] cs with
  | some (before, after) => (true, valued before after)
  | none =>
    match (splitAtSign? [':'] cs).orElse fun _ => splitAtSign? ['='] cs with
    | some (before, after) => (false, valued before after)
    | none => (false, Property.named? (String.ofList cs))

/-- The set that the query after a property escape asks for, or its complement. -/
def propertySet (flags : Flags) (negated : Bool) (cs : List Char) :
    Except PatternFault Primitive :=
  match query cs with
  | (others, some r) =>
    if flags.unicode then
      let r := flags.fold r
      .ok (.set (if negated != others then r.complement else r))
    else .error .partOfCharacter
  | (_, none) => .error .unknownProperty

/-- What follows a property escape: a query in braces or of one letter. -/
def property (flags : Flags) (negated : Bool) (cs : List Char) :
    Except PatternFault (Primitive × List Char) := do
  match flags.skip cs with
  | [] => .error .endsInEscape
  | '\x7b' :: cs =>
    let (name, rest) ← bracedName flags.verbose false cs
    .ok (← propertySet flags negated name, rest)
  | '\\' :: _ => .error .unknownProperty
  | c :: rest =>
    match Property.named? (String.singleton c) with
    | some r =>
      if flags.unicode then
        let r := flags.fold r
        .ok (.set (if negated then r.complement else r), rest)
      else .error .partOfCharacter
    | none => .error .unknownProperty

/-- The characters that stand for themselves after a backslash: those of ASCII that are neither
letters nor digits nor angle brackets. -/
def isPlain (c : Char) : Bool := c.toNat < 128 && !c.isAlphanum && c != '<' && c != '>'

/-- The escape after a backslash. -/
def read (flags : Flags) : List Char → Except PatternFault (Primitive × List Char)
  | [] => .error .endsInEscape
  | c :: cs =>
    if c.isDigit then .error .backReference
    else if isPlain c then .ok (.literal c false, cs)
    else
      match c with
      | 'x' => codePoint flags 2 cs
      | 'u' => codePoint flags 4 cs
      | 'U' => codePoint flags 8 cs
      | 'd' => .ok (.set (digits flags), cs)
      | 's' => .ok (.set (blanks flags), cs)
      | 'w' => .ok (.set (words flags), cs)
      | 'D' => (flags.negate (digits flags)).map fun r => (.set r, cs)
      | 'S' => (flags.negate (blanks flags)).map fun r => (.set r, cs)
      | 'W' => (flags.negate (words flags)).map fun r => (.set r, cs)
      | 'p' => property flags false cs
      | 'P' => property flags true cs
      | 'a' => .ok (.literal '\x07' false, cs)
      | 'f' => .ok (.literal '\x0c' false, cs)
      | 't' => .ok (.literal '\t' false, cs)
      | 'n' => .ok (.literal '\n' false, cs)
      | 'r' => .ok (.literal '\r' false, cs)
      | 'v' => .ok (.literal '\x0b' false, cs)
      | 'A' => .ok (.look .textStart, cs)
      | 'z' => .ok (.look .textEnd, cs)
      | 'b' => wordBoundary flags cs
      | 'B' => .ok (wordLook flags .interior, cs)
      | '<' => .ok (wordLook flags .start, cs)
      | '>' => .ok (wordLook flags .stop, cs)
      | _ => .error .unknownEscape

end Escape

end Timephrase.Pattern
