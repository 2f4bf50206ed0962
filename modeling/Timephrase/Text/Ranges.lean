/-!
# Tables of code points

A property of characters is kept as the ranges of code points that have it, in order and with a gap
between each and the next.  Long tables are written as a text of hexadecimal numbers with blanks or
ends of lines between them: how many code points are passed over, how many have the property, how
many are passed over again, and so on.

## Main definitions

* `Ranges`: the ranges, both ends included
* `Ranges.contains`: whether a code point lies in one of them
* `Ranges.insert`, `Ranges.union`, `Ranges.inter`, `Ranges.complement`: what ranges are made from
* `Ranges.ofText`: the ranges that a table text writes

## Main results

* `Ranges.contains_insert`, `Ranges.contains_union`, `Ranges.contains_inter`: membership
-/

namespace Timephrase

/-- Ranges of code points, both ends included. -/
structure Ranges where
  list : List (Nat × Nat)
  deriving DecidableEq, Repr, Inhabited

namespace Ranges

/-- No code points. -/
def empty : Ranges := ⟨[]⟩

/-- The code points of one range. -/
def range (lo hi : Nat) : Ranges := ⟨[(lo, hi)]⟩

/-- One code point. -/
def single (n : Nat) : Ranges := range n n

/-- Whether a code point lies in one of the ranges. -/
def contains (r : Ranges) (n : Nat) : Bool := r.list.any fun (lo, hi) => lo ≤ n && n ≤ hi

/-! ## Sets of code points -/

/-- A range put in its place among others, and made one with those that it touches. -/
def insertInto (lo hi : Nat) : List (Nat × Nat) → List (Nat × Nat)
  | [] => [(lo, hi)]
  | (first, last) :: rest =>
    if hi + 1 < first then (lo, hi) :: (first, last) :: rest
    else if last + 1 < lo then (first, last) :: insertInto lo hi rest
    else insertInto (min lo first) (max hi last) rest

/-- The code points of some ranges and of one more. -/
def insert (r : Ranges) (lo hi : Nat) : Ranges := ⟨insertInto lo hi r.list⟩

/-- The code points of some ranges and of those in a list, which may be in any order. -/
def insertAll (r : Ranges) (ranges : List (Nat × Nat)) : Ranges :=
  ranges.foldl (fun r range => r.insert range.1 range.2) r

/-- What lies in one of two sets of ranges. -/
def union (r s : Ranges) : Ranges := r.insertAll s.list

/-- What two ranges have in common. -/
def overlap? (p q : Nat × Nat) : Option (Nat × Nat) :=
  if max p.1 q.1 ≤ min p.2 q.2 then some (max p.1 q.1, min p.2 q.2) else none

/-- What lies in both of two sets of ranges. -/
def inter (r s : Ranges) : Ranges := ⟨r.list.flatMap fun p => s.list.filterMap (overlap? p)⟩

/-- The greatest code point. -/
def greatest : Nat := 0x10FFFF

/-- The code points from one on that ranges in order leave out. -/
def gapsFrom : Nat → List (Nat × Nat) → List (Nat × Nat)
  | start, [] => if start ≤ greatest then [(start, greatest)] else []
  | start, (lo, hi) :: rest =>
    if start < lo then (start, lo - 1) :: gapsFrom (hi + 1) rest else gapsFrom (hi + 1) rest

/-- What does not lie in a set of ranges. -/
def complement (r : Ranges) : Ranges := ⟨gapsFrom 0 r.list⟩

/-- What is in `r` and not in `s`. -/
def diff (r s : Ranges) : Ranges := r.inter s.complement

/-- What is in one of two sets of ranges and not in both. -/
def symmDiff (r s : Ranges) : Ranges := (r.diff s).union (s.diff r)

theorem contains_iff (r : Ranges) (n : Nat) :
    r.contains n = true ↔ ∃ p ∈ r.list, p.1 ≤ n ∧ n ≤ p.2 := by
  simp [contains]

@[simp] theorem contains_empty (n : Nat) : empty.contains n = false := rfl

@[simp] theorem contains_range (lo hi n : Nat) :
    (range lo hi).contains n = true ↔ lo ≤ n ∧ n ≤ hi := by
  simp [contains, range]

theorem exists_mem_insertInto (lo hi n : Nat) (ranges : List (Nat × Nat)) :
    (∃ p ∈ insertInto lo hi ranges, p.1 ≤ n ∧ n ≤ p.2) ↔
      (lo ≤ n ∧ n ≤ hi) ∨ ∃ p ∈ ranges, p.1 ≤ n ∧ n ≤ p.2 := by
  induction ranges generalizing lo hi with
  | nil => simp [insertInto]
  | cons p rest ih =>
    obtain ⟨first, last⟩ := p
    simp only [insertInto]
    split
    · simp
    · split
      · simp only [List.mem_cons, exists_eq_or_imp, ih]
        exact or_left_comm
      · rw [ih]
        simp only [List.mem_cons, exists_eq_or_imp, ← or_assoc]
        refine or_congr ?_ Iff.rfl
        omega

@[simp] theorem contains_insert (r : Ranges) (lo hi n : Nat) :
    (r.insert lo hi).contains n = true ↔ (lo ≤ n ∧ n ≤ hi) ∨ r.contains n = true := by
  rw [contains_iff, contains_iff]
  exact exists_mem_insertInto lo hi n r.list

theorem contains_insertAll (r : Ranges) (ranges : List (Nat × Nat)) (n : Nat) :
    (r.insertAll ranges).contains n = true ↔
      r.contains n = true ∨ ∃ p ∈ ranges, p.1 ≤ n ∧ n ≤ p.2 := by
  induction ranges generalizing r with
  | nil => simp [insertAll]
  | cons p rest ih =>
    have h : r.insertAll (p :: rest) = (r.insert p.1 p.2).insertAll rest := rfl
    rw [h, ih, contains_insert]
    simp only [List.mem_cons, exists_eq_or_imp]
    exact or_assoc.trans or_left_comm

@[simp] theorem contains_union (r s : Ranges) (n : Nat) :
    (r.union s).contains n = true ↔ r.contains n = true ∨ s.contains n = true := by
  rw [union, contains_insertAll, contains_iff s]

@[simp] theorem contains_inter (r s : Ranges) (n : Nat) :
    (r.inter s).contains n = true ↔ r.contains n = true ∧ s.contains n = true := by
  simp only [contains_iff, inter, List.mem_flatMap, List.mem_filterMap]
  constructor
  · rintro ⟨_, ⟨q, hq, p, hp, h⟩, hn⟩
    simp only [overlap?] at h
    split at h
    · cases h
      exact ⟨⟨q, hq, by omega⟩, ⟨p, hp, by omega⟩⟩
    · cases h
  · rintro ⟨⟨q, hq, hqn⟩, ⟨p, hp, hpn⟩⟩
    refine ⟨(max q.1 p.1, min q.2 p.2), ⟨q, hq, p, hp, ?_⟩, by omega⟩
    simp only [overlap?]
    rw [if_pos (by omega)]

/-! ## Table texts -/

/-- The value of a hexadecimal digit in small letters. -/
def digit (c : Char) : Nat := if c.isDigit then c.toNat - '0'.toNat else c.toNat - 'a'.toNat + 10

/-- The numbers of a table text, after the one being read, if there is one: between two numbers stand
blanks and ends of lines. -/
def numbers : Option Nat → List Char → List Nat
  | n, [] => n.toList
  | n, c :: cs =>
    if c = ' ' ∨ c = '\n' then n.toList ++ numbers none cs
    else numbers (some (16 * n.getD 0 + digit c)) cs

/-- The ranges whose distances and sizes are given, from a code point on. -/
def ofSizes : Nat → List Nat → List (Nat × Nat)
  | start, gap :: size :: rest =>
    (start + gap, start + gap + size - 1) :: ofSizes (start + gap + size) rest
  | _, _ => []

/-- The ranges that a table text writes. -/
def ofText (text : String) : Ranges := ⟨ofSizes 0 (numbers none text.toList)⟩

end Ranges

end Timephrase
