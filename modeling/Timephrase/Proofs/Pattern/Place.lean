import Mathlib.Data.List.Basic
import Timephrase.Pattern.Match
import Timephrase.Text.Utf8

/-!
# Places in a text

A place is known by what has been read before it and what is left.  Reading some characters leads
from one place to another, and of the places that are reached from one place no two have the same
position.

## Main definitions

* `Cursor.between u v`: the place after `u` and before `v`
* `Cursor.Reads c w d`: reading `w` leads from `c` to `d`

## Main results

* `Cursor.Reads.eq_of_offset_eq`: a place is determined by where it is reached from and its position
* `Cursor.mem_all_iff`: the places of a text are those between its parts
-/

namespace Timephrase

namespace Utf8

theorem size_cons (c : Char) (cs : List Char) : size (c :: cs) = c.utf8Size + size cs := rfl

theorem size_pos {cs : List Char} (h : cs ≠ []) : 0 < size cs := by
  cases cs with
  | nil => exact absurd rfl h
  | cons c cs =>
    have := c.utf8Size_pos
    rw [size_cons]
    omega

/-- Of two beginnings of a text the longer goes on from the shorter. -/
theorem exists_of_append_eq_append {u v u' v' : List Char} (h : u ++ v = u' ++ v')
    (hs : size u ≤ size u') : ∃ w, u' = u ++ w ∧ v = w ++ v' := by
  rcases List.append_eq_append_iff.mp h with hw | ⟨w, rfl, rfl⟩
  · exact hw
  · obtain rfl : w = [] := by
      by_contra hne
      have := size_pos hne
      rw [size_append] at hs
      omega
    exact ⟨[], by simp, rfl⟩

/-- A beginning of a text that goes on after some characters has the next one. -/
theorem exists_of_append_cons_eq_append {u v u' v' : List Char} {c : Char}
    (h : u ++ c :: v = u' ++ v') (hs : size u < size u') : ∃ w, u' = u ++ c :: w := by
  obtain ⟨w, rfl, hv⟩ := exists_of_append_eq_append h (Nat.le_of_lt hs)
  cases w with
  | nil =>
    rw [List.append_nil] at hs
    omega
  | cons c' w =>
    obtain ⟨rfl, -⟩ := List.cons.inj hv
    exact ⟨w, rfl⟩

/-- Two beginnings of a text with the same number of bytes are the same. -/
theorem eq_of_append_eq_append {u v u' v' : List Char} (h : u ++ v = u' ++ v')
    (hs : size u = size u') : u = u' := by
  obtain ⟨w, rfl, -⟩ := exists_of_append_eq_append h (Nat.le_of_eq hs)
  obtain rfl : w = [] := by
    by_contra hne
    have := size_pos hne
    rw [size_append] at hs
    omega
  rw [List.append_nil]

end Utf8

namespace Pattern.Cursor

/-- The place after `u` and before `v`. -/
def between (u v : List Char) : Cursor := ⟨Utf8.size u, u.getLast?, v⟩

/-- Reading the characters `w` leads from one place to another. -/
def Reads (c : Cursor) (w : List Char) (d : Cursor) : Prop :=
  c.rest = w ++ d.rest ∧ d.offset = c.offset + Utf8.size w ∧ d.before = w.getLast?.or c.before

variable {c d e : Cursor} {w w' : List Char}

namespace Reads

theorem rest_eq (h : c.Reads w d) : c.rest = w ++ d.rest := h.1

theorem offset_eq (h : c.Reads w d) : d.offset = c.offset + Utf8.size w := h.2.1

theorem before_eq (h : c.Reads w d) : d.before = w.getLast?.or c.before := h.2.2

theorem offset_le (h : c.Reads w d) : c.offset ≤ d.offset := by
  rw [h.offset_eq]
  exact Nat.le_add_right _ _

theorem offset_lt (h : c.Reads w d) (hw : w ≠ []) : c.offset < d.offset := by
  have := Utf8.size_pos hw
  rw [h.offset_eq]
  omega

@[simp] theorem nil_iff : c.Reads [] d ↔ d = c := by
  constructor
  · rintro ⟨hr, ho, hb⟩
    obtain ⟨_, _, _⟩ := c
    obtain ⟨_, _, _⟩ := d
    simp_all [Utf8.size]
  · rintro rfl
    simp [Reads, Utf8.size]

theorem refl (c : Cursor) : c.Reads [] c := nil_iff.mpr rfl

theorem single {ch : Char} {rest : List Char} (h : c.rest = ch :: rest) :
    c.Reads [ch] (next c.offset ch rest) := by
  simp [Reads, next, h, Utf8.size]

theorem trans (h : c.Reads w d) (h' : d.Reads w' e) : c.Reads (w ++ w') e := by
  refine ⟨?_, ?_, ?_⟩
  · rw [h.rest_eq, h'.rest_eq, List.append_assoc]
  · rw [h'.offset_eq, h.offset_eq, Utf8.size_append, Nat.add_assoc]
  · rw [h'.before_eq, h.before_eq, List.getLast?_append, Option.or_assoc]

/-- The place reached is determined by the characters read. -/
theorem eq_of_reads (h : c.Reads w d) (h' : c.Reads w e) : d = e := by
  have hr : d.rest = e.rest := List.append_cancel_left (h.rest_eq.symm.trans h'.rest_eq)
  have ho : d.offset = e.offset := h.offset_eq.trans h'.offset_eq.symm
  have hb : d.before = e.before := h.before_eq.trans h'.before_eq.symm
  obtain ⟨_, _, _⟩ := d
  obtain ⟨_, _, _⟩ := e
  simp_all

/-- **A place is determined by its position**, given one from which it is reached. -/
theorem eq_of_offset_eq (h : c.Reads w d) (h' : c.Reads w' e) (ho : d.offset = e.offset) :
    d = e := by
  have hw : w = w' := by
    refine Utf8.eq_of_append_eq_append (h.rest_eq.symm.trans h'.rest_eq) ?_
    have := h.offset_eq
    have := h'.offset_eq
    omega
  subst hw
  exact h.eq_of_reads h'

/-- There is a place after each part of what is read. -/
theorem exists_of_append (h : c.Reads (w ++ w') e) : ∃ d, c.Reads w d ∧ d.Reads w' e := by
  refine ⟨⟨c.offset + Utf8.size w, w.getLast?.or c.before, w' ++ e.rest⟩, ⟨?_, rfl, rfl⟩,
    rfl, ?_, ?_⟩
  · simpa using h.rest_eq
  · simpa [Nat.add_assoc] using h.offset_eq
  · simpa [List.getLast?_append, Option.or_assoc] using h.before_eq

theorem cons_iff {ch : Char} :
    c.Reads (ch :: w) e ↔ ∃ rest, c.rest = ch :: rest ∧ (next c.offset ch rest).Reads w e := by
  constructor
  · intro h
    obtain ⟨d, hd, he⟩ := exists_of_append (w := [ch]) h
    have hrest : c.rest = ch :: d.rest := hd.rest_eq
    exact ⟨d.rest, hrest, (single hrest).eq_of_reads hd ▸ he⟩
  · rintro ⟨rest, hrest, h⟩
    exact (single hrest).trans h

end Reads

theorem reads_between (u w v : List Char) : (between u (w ++ v)).Reads w (between (u ++ w) v) := by
  simp [Reads, between, List.getLast?_append]

/-- Reading from a place between two parts leads to a place between two parts. -/
theorem Reads.eq_between {u v : List Char} (h : (between u v).Reads w d) :
    d = between (u ++ w) d.rest := by
  -- Both places are reached by the same characters.
  have hv : v = w ++ d.rest := h.rest_eq
  subst hv
  exact h.eq_of_reads (reads_between u w d.rest)

/-! ## Every place of a text -/

theorem mem_onward_iff {offset : Nat} {before : Option Char} {rest : List Char} :
    c ∈ onward offset before rest ↔ ∃ w, (⟨offset, before, rest⟩ : Cursor).Reads w c := by
  -- On what is left of the text: nothing is read, or the next character is.
  induction rest generalizing offset before with
  | nil =>
    simp only [onward, List.mem_singleton]
    constructor
    · rintro rfl
      exact ⟨[], .refl _⟩
    · rintro ⟨w, h⟩
      have hw : w = [] := (List.append_eq_nil_iff.mp h.rest_eq.symm).1
      subst hw
      exact Reads.nil_iff.mp h
  | cons ch rest ih =>
    simp only [onward, List.mem_cons, ih]
    constructor
    · rintro (rfl | ⟨w, h⟩)
      · exact ⟨[], .refl _⟩
      · exact ⟨ch :: w, Reads.cons_iff.mpr ⟨rest, rfl, h⟩⟩
    · rintro ⟨w, h⟩
      cases w with
      | nil => exact Or.inl (Reads.nil_iff.mp h)
      | cons ch' w =>
        obtain ⟨rest', hrest, h⟩ := Reads.cons_iff.mp h
        obtain ⟨rfl, rfl⟩ := List.cons.inj hrest
        exact Or.inr ⟨w, h⟩

/-- The positions of later places increase. -/
theorem pairwise_onward (offset : Nat) (before : Option Char) (rest : List Char) :
    (onward offset before rest).Pairwise fun c d => c.offset < d.offset := by
  induction rest generalizing offset before with
  | nil => simp [onward]
  | cons ch rest ih =>
    simp only [onward, List.pairwise_cons]
    refine ⟨fun d hd => ?_, ih _ _⟩
    obtain ⟨w, h⟩ := mem_onward_iff.mp hd
    have := ch.utf8Size_pos
    have := h.offset_le
    simp only at this ⊢
    omega

/-- **The places of a text are those between its parts.** -/
theorem mem_all_iff {text : String} :
    c ∈ all text ↔ ∃ u v, text.toList = u ++ v ∧ c = between u v := by
  rw [all, mem_onward_iff]
  constructor
  · rintro ⟨w, h⟩
    exact ⟨w, c.rest, h.rest_eq, Reads.eq_between (u := []) h⟩
  · rintro ⟨u, v, ht, rfl⟩
    exact ⟨u, ht ▸ reads_between [] u v⟩

theorem between_mem_all {text : String} {u v : List Char} (h : text.toList = u ++ v) :
    between u v ∈ all text :=
  mem_all_iff.mpr ⟨u, v, h, rfl⟩

end Pattern.Cursor

end Timephrase
