import Timephrase.Proofs.Pattern.Edge
import Timephrase.Proofs.Pattern.Row

/-!
# What is found from a place on

What the first way through a node leads to can be told part by part: a set reads its character, an
optional part is gone through if something is found after it, and left out otherwise.

## Main definitions

* `Pattern.Yields`: what is found from a place on is of some kind
* `Pattern.Reaches`, `Pattern.ReachesIfAny`: a match is found that reaches a position, and any match
  that is found does so
* `Pattern.ended`: the match that ends at a place

## Main results

* `Pattern.reaches_optional`, `Pattern.yields_optional_of_fails`: an optional part that is gone
  through, and one that is left out
* `Pattern.reachesIfAny_row`: a match that is found reaches the place where the search starts
-/

namespace Timephrase.Pattern

open Cursor Node

variable {k : Cursor → List (Nat × Span) → Option Match} {P : Option Match → Prop} {c : Cursor}
  {u v : List Char} {ch : Char} {s : CharSet} {body : Node} {stop : Nat}

/-- What is found from a place on is of some kind, whatever groups have been recorded. -/
def Yields (k : Cursor → List (Nat × Span) → Option Match) (c : Cursor) (P : Option Match → Prop) :
    Prop :=
  ∀ gs, P (k c gs)

/-- A match is found that reaches a position. -/
def Reaches (stop : Nat) (m? : Option Match) : Prop := ∃ m, m? = some m ∧ stop ≤ m.span.stop

/-- A match, if one is found, reaches a position. -/
def ReachesIfAny (stop : Nat) (m? : Option Match) : Prop := ∀ m, m? = some m → stop ≤ m.span.stop

/-- The match that started at a position and ends at a place. -/
def ended (start : Nat) (d : Cursor) (gs : List (Nat × Span)) : Option Match :=
  some ⟨⟨start, d.offset⟩, gs⟩

/-! ## Conditions and characters -/

theorem next_between : Cursor.next (Utf8.size u) ch v = between (u ++ [ch]) v := by
  simp [Cursor.next, between, Utf8.size]

theorem yields_look {l : Look} (hl : l.HoldsAt c) (h : Yields k c P) :
    Yields ((look l).first k) c P := by
  intro gs
  rw [Look.HoldsAt] at hl
  rw [first_look, if_pos hl]
  exact h gs

theorem fails_look {l : Look} (hl : ¬ l.HoldsAt c) : Yields ((look l).first k) c (· = none) := by
  intro gs
  rw [Look.HoldsAt] at hl
  rw [first_look, if_neg hl]

theorem yields_set (hch : s.mem ch = true) (h : Yields k (between (u ++ [ch]) v) P) :
    Yields ((set s).first k) (between u (ch :: v)) P := by
  intro gs
  rw [first_set]
  have hrest := h gs
  rw [← next_between] at hrest
  simpa [between, hch] using hrest

theorem fails_set (hch : s.mem ch = false) :
    Yields ((set s).first k) (between u (ch :: v)) (· = none) := by
  intro gs
  simp [first_set, between, hch]

theorem yields_group {index : Nat} (h : Yields
    (body.first fun d gs => k d ((index, ⟨c.offset, d.offset⟩) :: gs)) c P) :
    Yields ((group index body).first k) c P := by
  intro gs
  rw [first_group]
  exact h gs

/-! ## Runs -/

variable {least n : Nat}

theorem yields_run_succ (hch : s.mem ch = true)
    (h : Yields ((run s least (some n) true).first k) (between (u ++ [ch]) v) P) :
    Yields ((run s (least + 1) (some (n + 1)) true).first k) (between u (ch :: v)) P := by
  intro gs
  rw [first_run_succ]
  have hrest := h gs
  rw [← next_between] at hrest
  simpa [between, hch] using hrest

theorem fails_run_succ (hch : s.mem ch = false) :
    Yields ((run s (least + 1) (some (n + 1)) true).first k) (between u (ch :: v)) (· = none) := by
  intro gs
  simp [first_run_succ, between, hch]

/-- A run that needs no more characters takes none that is not of its set. -/
theorem yields_run_zero_of_not_mem (hch : s.mem ch = false) (h : Yields k (between u (ch :: v)) P) :
    Yields ((run s 0 (some n) true).first k) (between u (ch :: v)) P := by
  intro gs
  cases n with
  | zero =>
    rw [first_run_zero]
    exact h gs
  | succ n =>
    rw [first_run_zero_succ]
    simpa [between, hch] using h gs

theorem yields_run_zero (h : Yields k c P) : Yields ((run s 0 (some 0) true).first k) c P := by
  intro gs
  rw [first_run_zero]
  exact h gs

/-! ## Parts that may be left out -/

theorem Reaches.or_left {m? m?' : Option Match} (h : Reaches stop m?) :
    Reaches stop (m?.or m?') := by
  obtain ⟨m, rfl, hm⟩ := h
  exact ⟨m, rfl, hm⟩

theorem ReachesIfAny.or_reaches {m? m?' : Option Match} (h : ReachesIfAny stop m?)
    (h' : Reaches stop m?') : Reaches stop (m?.or m?') := by
  cases m? with
  | none => exact h'
  | some m => exact ⟨m, rfl, h m rfl⟩

/-- Where no match is found, any match reaches a position. -/
theorem Yields.reachesIfAny (h : Yields k c (· = none)) : Yields k c (ReachesIfAny stop) := by
  intro gs m hm
  rw [h gs] at hm
  cases hm

theorem Yields.mono {n : Nat} (h : Yields k c (ReachesIfAny n)) (hle : stop ≤ n) :
    Yields k c (ReachesIfAny stop) := by
  intro gs m hm
  exact Nat.le_trans hle (h gs m hm)

/-- An optional part is gone through if a match is found after it. -/
theorem reaches_optional (h : Yields (body.first k) c (Reaches stop)) :
    Yields ((times body 0 (some 1) true).first k) c (Reaches stop) := by
  intro gs
  rw [first_optional]
  exact (h gs).or_left

/-- An optional part is left out if nothing is found after it. -/
theorem yields_optional_of_fails (hbody : Yields (body.first k) c (· = none)) (h : Yields k c P) :
    Yields ((times body 0 (some 1) true).first k) c P := by
  intro gs
  rw [first_optional, hbody gs]
  exact h gs

/-- A run takes one more character if a match is found after it. -/
theorem reaches_run_zero (hch : s.mem ch = true)
    (h : Yields ((run s 0 (some n) true).first k) (between (u ++ [ch]) v) (Reaches stop)) :
    Yields ((run s 0 (some (n + 1)) true).first k) (between u (ch :: v)) (Reaches stop) := by
  intro gs
  rw [first_run_zero_succ]
  have hrest := h gs
  rw [← next_between] at hrest
  simpa [between, hch] using hrest.or_left

/-- A run goes back on one more character unless a match is found after it. -/
theorem reaches_run_zero_of_ifAny (hch : s.mem ch = true)
    (hmore : Yields ((run s 0 (some n) true).first k) (between (u ++ [ch]) v) (ReachesIfAny stop))
    (h : Yields k (between u (ch :: v)) (Reaches stop)) :
    Yields ((run s 0 (some (n + 1)) true).first k) (between u (ch :: v)) (Reaches stop) := by
  intro gs
  rw [first_run_zero_succ]
  have hrest := hmore gs
  rw [← next_between] at hrest
  simpa [between, hch] using hrest.or_reaches (h gs)

/-! ## Rows and choices -/

theorem yields_ofItems {nodes : List Node} (h : Yields (firstOfRow k nodes) c P) :
    Yields ((ofItems nodes).first k) c P := by
  rw [first_ofItems]
  exact h

/-- The first branch is taken if a match is found after it. -/
theorem reaches_alt_left {first second : Node} (h : Yields (first.first k) c (Reaches stop)) :
    Yields ((alt first second).first k) c (Reaches stop) := by
  intro gs
  rw [first_alt]
  exact (h gs).or_left

theorem yields_alt_of_fails {first second : Node} (hfirst : Yields (first.first k) c (· = none))
    (h : Yields (second.first k) c P) : Yields ((alt first second).first k) c P := by
  intro gs
  rw [first_alt, hfirst gs]
  exact h gs

/-- Nothing is found before the place where the search starts. -/
theorem reachesIfAny_first
    (h : ∀ d, Yields k d (ReachesIfAny d.offset)) (node : Node) :
    Yields (node.first k) c (ReachesIfAny c.offset) := by
  intro gs m hm
  -- A way only goes forward, and what comes after it does not go back behind its end.
  obtain ⟨w, hw, hm⟩ := List.exists_of_findSome?_eq_some hm
  obtain ⟨r, hr⟩ := exists_reads_of_mem_ways hw
  exact Nat.le_trans hr.offset_le (h w.1 (w.2 ++ gs) m hm)

theorem reachesIfAny_row {start : Nat} (nodes : List Node) :
    Yields (firstOfRow (ended start) nodes) c (ReachesIfAny c.offset) := by
  induction nodes generalizing c with
  | nil =>
    rintro gs m ⟨⟩
    exact Nat.le_refl _
  | cons node nodes ih => exact reachesIfAny_first (fun _ => ih) node

end Timephrase.Pattern
