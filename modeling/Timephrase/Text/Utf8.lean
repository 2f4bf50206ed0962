/-!
# Texts as bytes

A text is a sequence of bytes, one to four for each character.  Positions in a text are counted in
these bytes, so a position need not be one where a character starts.  Bytes that are no longer a
text are read with a replacement character for every piece that cannot start or go on a character.

## Main definitions

* `Utf8.encode`, `Utf8.size`: the bytes of some characters, and their number
* `Utf8.slice?`: the piece of a text between two positions where characters start
* `Utf8.decode`: the characters of any bytes, ill-formed pieces replaced
-/

namespace Timephrase.Utf8

/-- The bytes of some characters. -/
def encode (cs : List Char) : List UInt8 := cs.flatMap String.utf8EncodeChar

/-- The number of bytes of some characters. -/
def size : List Char → Nat
  | [] => 0
  | c :: cs => c.utf8Size + size cs

/-- The characters before a position, and those after it, if a character starts or the text ends
there. -/
def splitAt? : Nat → List Char → Option (List Char × List Char)
  | 0, cs => some ([], cs)
  | _ + 1, [] => none
  | n + 1, c :: cs =>
    if c.utf8Size ≤ n + 1 then
      (splitAt? (n + 1 - c.utf8Size) cs).map fun (before, after) => (c :: before, after)
    else none

/-- The piece of a text between two positions, if characters start there. -/
def slice? (text : String) (start stop : Nat) : Option String :=
  if start ≤ stop then do
    let (_, rest) ← splitAt? start text.toList
    let (piece, _) ← splitAt? (stop - start) rest
    some (String.ofList piece)
  else none

/-! ## Reading bytes -/

/-- The character that takes the place of bytes that are none. -/
def replacement : Char := '\uFFFD'

/-- A character of which some bytes are still to come: their number, the bits read so far, and the
least and greatest value of the next byte. -/
structure Pending where
  missing : Nat
  bits : Nat
  least : Nat
  greatest : Nat
  deriving DecidableEq, Repr

/-- The characters that one byte completes when none is begun, and the character that it begins. -/
def start (b : Nat) : List Char × Option Pending :=
  if b < 0x80 then ([Char.ofNat b], none)
  else if b < 0xC2 then ([replacement], none)
  else if b < 0xE0 then ([], some ⟨1, b % 32, 0x80, 0xBF⟩)
  else if b = 0xE0 then ([], some ⟨2, 0, 0xA0, 0xBF⟩)
  else if b = 0xED then ([], some ⟨2, 13, 0x80, 0x9F⟩)
  else if b < 0xF0 then ([], some ⟨2, b % 16, 0x80, 0xBF⟩)
  else if b = 0xF0 then ([], some ⟨3, 0, 0x90, 0xBF⟩)
  else if b < 0xF4 then ([], some ⟨3, b % 8, 0x80, 0xBF⟩)
  else if b = 0xF4 then ([], some ⟨3, 4, 0x80, 0x8F⟩)
  else ([replacement], none)

/-- The characters that one byte completes, and the character that is begun after it.  A byte that
cannot go on the character begun ends it as a replacement and starts afresh. -/
def step : Option Pending → Nat → List Char × Option Pending
  | none, b => start b
  | some p, b =>
    if p.least ≤ b ∧ b ≤ p.greatest then
      let bits := p.bits * 64 + b % 64
      if p.missing ≤ 1 then ([Char.ofNat bits], none)
      else ([], some ⟨p.missing - 1, bits, 0x80, 0xBF⟩)
    else
      let (completed, next) := start b
      (replacement :: completed, next)

/-- The characters of some bytes when a character may be begun. -/
def decodeFrom : Option Pending → List UInt8 → List Char
  | none, [] => []
  | some _, [] => [replacement]
  | p, b :: bs =>
    let (completed, next) := step p b.toNat
    completed ++ decodeFrom next bs

/-- The characters of some bytes, with a replacement for every longest piece that could begin a
character but does not make one. -/
def decode (bs : List UInt8) : List Char := decodeFrom none bs

@[simp] theorem encode_nil : encode [] = [] := rfl

@[simp] theorem encode_append (cs ds : List Char) : encode (cs ++ ds) = encode cs ++ encode ds :=
  List.flatMap_append

@[simp] theorem size_append (cs ds : List Char) : size (cs ++ ds) = size cs + size ds := by
  induction cs with
  | nil => simp [size]
  | cons c cs ih => simp [size, ih, Nat.add_assoc]

end Timephrase.Utf8
