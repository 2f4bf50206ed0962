/-!
# Spans of a text

A span is a range of byte positions: it starts at a position that it holds and stops before one
that it does not.  A span that stops where it starts, or before, holds nothing.

## Main definitions

* `Span`: the range
* `Span.Covers`: the positions that a span holds
* `Span.clamp`: the part of a span that lies before a given length
-/

namespace Timephrase

/-- A range of byte positions, `start` included and `stop` not. -/
structure Span where
  start : Nat
  stop : Nat
  deriving DecidableEq, Repr, Inhabited

namespace Span

/-- The number of positions that a span holds. -/
def length (s : Span) : Nat := s.stop - s.start

/-- Whether a span holds no position. -/
def isEmpty (s : Span) : Bool := s.length == 0

/-- The positions that a span holds. -/
def Covers (s : Span) (i : Nat) : Prop := s.start ≤ i ∧ i < s.stop

instance (s : Span) (i : Nat) : Decidable (s.Covers i) := inferInstanceAs (Decidable (_ ∧ _))

/-- The part of a span that lies in the first `n` positions. -/
def clamp (s : Span) (n : Nat) : Span where
  start := min s.start (min s.stop n)
  stop := min s.stop n

theorem isEmpty_iff (s : Span) : s.isEmpty = true ↔ s.stop ≤ s.start := by
  simp only [isEmpty, length, beq_iff_eq]
  omega

/-- Clamping keeps the positions below the bound and loses the others. -/
theorem covers_clamp_iff (s : Span) (n i : Nat) :
    (s.clamp n).Covers i ↔ s.Covers i ∧ i < n := by
  simp only [Covers, clamp]
  omega

end Span

end Timephrase
