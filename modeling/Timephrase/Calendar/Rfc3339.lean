import Timephrase.Calendar.Moment

/-!
# Timestamps of RFC 3339

A timestamp is a date, `T`, a time of day and an offset: `2013-02-12T04:30:00.250+05:30`.  Written
timestamps have the fewest of no, three, six or nine fraction digits and always a numeric offset,
rounded to the minute.  What is read may also have any number of fraction digits, of which nine
count, a small letter or a blank between date and time, `Z` for the offset zero, and a proper minus
sign before the offset.

## Main definitions

* `Moment.rfc3339`: the written timestamp
* `Moment.ofRfc3339?`: the moment that a timestamp denotes
-/

namespace Timephrase

namespace Moment

/-- An offset as a sign, hours and minutes, rounded to the nearest minute, a half away from
zero. -/
def offsetText (offset : Int) : String :=
  let minutes := (offset.natAbs + 30) / 60
  (if offset < 0 then "-" else "+") ++ Digits.padded 2 (minutes / 60) ++ ":" ++
    Digits.padded 2 (minutes % 60)

/-- The timestamp of a moment, read by its own clock. -/
def rfc3339 (m : Moment) : String :=
  m.localTime.date.text ++ "T" ++ m.localTime.clockText ++ offsetText m.offset

/-! ## Reading -/

/-- A number of exactly `count` digits, and the characters after it. -/
def readDigits? : Nat → List Char → Option (Nat × List Char)
  | count, cs => go count 0 cs
where
  /-- The digits still to come, after those that made up `n`. -/
  go : Nat → Nat → List Char → Option (Nat × List Char)
    | 0, n, cs => some (n, cs)
    | _ + 1, _, [] => none
    | count + 1, n, c :: cs =>
      if c.isDigit then go count (10 * n + (c.toNat - '0'.toNat)) cs else none

/-- The characters after one that has to come first. -/
def readMark? (mark : Char) : List Char → Option (List Char)
  | [] => none
  | c :: cs => if c = mark then some cs else none

/-- The nanoseconds of a fraction without its point: the first nine of its digits, at least one. -/
def readFraction? (cs : List Char) : Option (Nat × List Char) :=
  let digits := cs.takeWhile Char.isDigit
  if digits = [] then none
  else
    let counted := digits.take 9
    let nanos := counted.foldl (fun n c => 10 * n + (c.toNat - '0'.toNat)) 0
    some (nanos * Nat.pow 10 (9 - counted.length), cs.dropWhile Char.isDigit)

/-- The offset that ends a timestamp, in seconds east; it is less than a day. -/
def readOffset? : List Char → Option (Int × List Char)
  | [] => none
  | c :: cs =>
    if c = 'Z' ∨ c = 'z' then some (0, cs)
    else if c = '+' then (magnitude? cs).map fun (n, rest) => ((n : Int), rest)
    else if c = '-' ∨ c = '\u2212' then (magnitude? cs).map fun (n, rest) => (-(n : Int), rest)
    else none
where
  /-- Hours and minutes joined by a colon, as seconds. -/
  magnitude? (cs : List Char) : Option (Nat × List Char) := do
    let (hours, cs) ← readDigits? 2 cs
    let cs ← readMark? ':' cs
    let (minutes, cs) ← readDigits? 2 cs
    if hours ≤ 23 ∧ minutes ≤ 59 then some (hours * 3600 + minutes * 60, cs) else none

/-- A local time from the fields of a timestamp.  Second 60 is a leap second, in any minute. -/
def ofFields? (year : Int) (month day hour minute second nanos : Nat) : Option LocalTime :=
  if hour ≤ 23 ∧ minute ≤ 59 ∧ second ≤ 60 then
    (Date.ofFields? year month day).map fun d =>
      let shown : Int := d.dayNumber * LocalTime.perDay + hour * 3600 + minute * 60
      if second = 60 then ⟨shown + 59, Duration.perSecond + nanos⟩
      else ⟨shown + second, nanos⟩
  else none

/-- The moment that a text denotes as a timestamp. -/
def ofRfc3339? (text : String) : Option Moment := do
  let (year, cs) ← readDigits? 4 text.toList
  let cs ← readMark? '-' cs
  let (month, cs) ← readDigits? 2 cs
  let cs ← readMark? '-' cs
  let (day, cs) ← readDigits? 2 cs
  let cs ← match cs with
    | c :: cs => if c = 'T' ∨ c = 't' ∨ c = ' ' then some cs else none
    | [] => none
  let (hour, cs) ← readDigits? 2 cs
  let cs ← readMark? ':' cs
  let (minute, cs) ← readDigits? 2 cs
  let cs ← readMark? ':' cs
  let (second, cs) ← readDigits? 2 cs
  let (nanos, cs) ← match cs with
    | '.' :: cs => readFraction? cs
    | cs => some (0, cs)
  let (offset, cs) ← readOffset? cs
  if cs ≠ [] then none
  else
    let t ← ofFields? year month day hour minute second nanos
    ofLocal? t offset

end Moment

end Timephrase
