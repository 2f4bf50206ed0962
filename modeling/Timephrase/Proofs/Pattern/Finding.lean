import Timephrase.Proofs.Pattern.Way

/-!
# The matches found in a text

The matches of a pattern are found from left to right.  Each of them is the preferred match at a
place of the text, none overlaps another, and a match that is passed over is overlapped by one that
is found.

## Main results

* `exists_place_of_mem_findAll`: a match found is the preferred one at some place
* `pairwise_findAll`: the matches found are in order and do not overlap
* `mem_findAll_or_overlapped`: a match that is not empty is found unless another one is in its way
* `findAll_eq_nil`, `findAll_eq_singleton`: a text without a match, and one with a single match
-/

namespace Timephrase.Pattern

variable {node : Node} {c : Cursor} {cs : List Cursor} {m : Match} {floor : Option Nat}

theorem start_of_matchAt? (h : matchAt? node c = some m) : m.span.start = c.offset := by
  obtain ⟨d, -, hm⟩ := way_of_matchAt? h
  rw [hm]

theorem start_le_stop_of_matchAt? (h : matchAt? node c = some m) : m.span.start ≤ m.span.stop := by
  obtain ⟨d, hd, hm⟩ := way_of_matchAt? h
  rw [hm]
  exact hd.offset_le

/-! ## From a list of places -/

theorem exists_of_mem_matchesFrom (h : m ∈ matchesFrom node floor cs) :
    ∃ c ∈ cs, matchAt? node c = some m ∧ ∀ n, floor = some n → n ≤ c.offset := by
  induction cs generalizing floor with
  | nil => cases h
  | cons c cs ih =>
    -- A match from a later place keeps to the old floor, since the floor only rises.
    have hlater : ∀ floor', (∀ n, floor = some n → ∃ n', floor' = some n' ∧ n ≤ n') →
        m ∈ matchesFrom node floor' cs →
        ∃ c' ∈ c :: cs, matchAt? node c' = some m ∧ ∀ n, floor = some n → n ≤ c'.offset := by
      intro floor' hfloor hm
      obtain ⟨c', hc', hm, hle⟩ := ih hm
      refine ⟨c', List.mem_cons_of_mem _ hc', hm, fun n hn => ?_⟩
      obtain ⟨n', hn', hnn'⟩ := hfloor n hn
      exact Nat.le_trans hnn' (hle n' hn')
    have hsame : ∀ n, floor = some n → ∃ n', floor = some n' ∧ n ≤ n' :=
      fun n hn => ⟨n, hn, Nat.le_refl _⟩
    simp only [matchesFrom] at h
    split at h
    · exact hlater floor hsame h
    · next hc =>
      have hle : ∀ n, floor = some n → n ≤ c.offset := by
        rintro n rfl
        simpa using hc
      split at h
      · exact hlater floor hsame h
      · next m' hm' =>
        split at h
        · exact hlater floor hsame h
        · rcases List.mem_cons.mp h with rfl | h
          · exact ⟨c, List.mem_cons_self, hm', hle⟩
          -- The match taken starts at or after the old floor, so its end is a higher one.
          · refine hlater _ (fun n hn => ⟨_, rfl, ?_⟩) h
            have := start_of_matchAt? hm'
            have := start_le_stop_of_matchAt? hm'
            have := hle n hn
            omega

/-- Matches from places in order are in order, and none of them overlaps another. -/
theorem pairwise_matchesFrom (hcs : cs.Pairwise fun c d => c.offset < d.offset) :
    (matchesFrom node floor cs).Pairwise fun m m' =>
      m.span.start < m'.span.start ∧ m.span.stop ≤ m'.span.start := by
  induction cs generalizing floor with
  | nil => exact List.Pairwise.nil
  | cons c cs ih =>
    obtain ⟨hc, hcs⟩ := List.pairwise_cons.mp hcs
    simp only [matchesFrom]
    split
    · exact ih hcs
    · split
      · exact ih hcs
      · next m' hm' =>
        split
        · exact ih hcs
        · refine List.pairwise_cons.mpr ⟨fun m hm => ?_, ih hcs⟩
          -- The end of the first match is the floor for all that follow.
          obtain ⟨d, hd, hmd, hle⟩ := exists_of_mem_matchesFrom hm
          have := start_of_matchAt? hm'
          have := start_of_matchAt? hmd
          have := hc d hd
          have := hle _ rfl
          omega

/-- A match that is not empty is found, unless one found before reaches past its start. -/
theorem mem_matchesFrom_or_overlapped (hcs : cs.Pairwise fun c d => c.offset < d.offset)
    (hc : c ∈ cs) (hm : matchAt? node c = some m) (hne : m.span.start < m.span.stop)
    (hfloor : ∀ n, floor = some n → n ≤ c.offset) :
    m ∈ matchesFrom node floor cs ∨
      ∃ m' ∈ matchesFrom node floor cs, m'.span.start < c.offset ∧ c.offset < m'.span.stop := by
  induction cs generalizing floor with
  | nil => cases hc
  | cons d cs ih =>
    obtain ⟨hd, hcs⟩ := List.pairwise_cons.mp hcs
    have hnotEmpty : m.span.isEmpty = false := by
      rw [Bool.eq_false_iff, ne_eq, Span.isEmpty_iff]
      omega
    simp only [matchesFrom]
    rcases List.mem_cons.mp hc with rfl | hc
    · -- The place itself comes next, and nothing keeps its match from being taken.
      have hskip : ¬ floor.any (c.offset < ·) = true := by
        cases floor with
        | none => simp
        | some n => simpa using hfloor n rfl
      simp [hskip, hm, hnotEmpty]
    · split
      · exact ih hcs hc hfloor
      · split
        · exact ih hcs hc hfloor
        · next m' hm' =>
          split
          · exact ih hcs hc hfloor
          -- A match is taken at an earlier place: it reaches past the place, or it leaves the place
          -- free.
          · by_cases hover : c.offset < m'.span.stop
            · refine Or.inr ⟨m', List.mem_cons_self, ?_, hover⟩
              rw [start_of_matchAt? hm']
              exact hd c hc
            · have hstop : ∀ n, some m'.span.stop = some n → n ≤ c.offset := by
                rintro n ⟨⟩
                omega
              rcases ih hcs hc hstop with h | ⟨m'', h, hover⟩
              · exact Or.inl (List.mem_cons_of_mem _ h)
              · exact Or.inr ⟨m'', List.mem_cons_of_mem _ h, hover⟩

/-! ## In a text -/

variable {p : Pattern} {text : String}

/-- **A match found in a text is the preferred one at some place of it.** -/
theorem exists_place_of_mem_findAll (h : m ∈ p.findAll text) :
    ∃ u v, text.toList = u ++ v ∧ matchAt? p.node (.between u v) = some m := by
  obtain ⟨c, hc, hm, -⟩ := exists_of_mem_matchesFrom h
  obtain ⟨u, v, ht, rfl⟩ := Cursor.mem_all_iff.mp hc
  exact ⟨u, v, ht, hm⟩

/-- **The matches found are in order and do not overlap.** -/
theorem pairwise_findAll (p : Pattern) (text : String) :
    (p.findAll text).Pairwise fun m m' =>
      m.span.start < m'.span.start ∧ m.span.stop ≤ m'.span.start :=
  pairwise_matchesFrom (Cursor.pairwise_onward _ _ _)

/-- **A match that is not empty is found**, unless one found before reaches past its start. -/
theorem mem_findAll_or_overlapped {u v : List Char} (ht : text.toList = u ++ v)
    (hm : matchAt? p.node (.between u v) = some m) (hne : m.span.start < m.span.stop) :
    m ∈ p.findAll text ∨
      ∃ m' ∈ p.findAll text, m'.span.start < Utf8.size u ∧ Utf8.size u < m'.span.stop :=
  mem_matchesFrom_or_overlapped (Cursor.pairwise_onward _ _ _) (Cursor.between_mem_all ht) hm hne
    (by simp)

/-- A text with no match at any place has none. -/
theorem findAll_eq_nil
    (h : ∀ u v, text.toList = u ++ v → matchAt? p.node (.between u v) = none) :
    p.findAll text = [] := by
  refine List.eq_nil_iff_forall_not_mem.mpr fun m hm => ?_
  obtain ⟨u, v, ht, hm⟩ := exists_place_of_mem_findAll hm
  rw [h u v ht] at hm
  cases hm

/-- **A text has a single match** if there is one at a place and none at a place before it or
behind. -/
theorem findAll_eq_singleton {u v : List Char} (ht : text.toList = u ++ v)
    (hm : matchAt? p.node (.between u v) = some m) (hne : m.span.start < m.span.stop)
    (hothers : ∀ u' v', text.toList = u' ++ v' →
      Utf8.size u' < Utf8.size u ∨ m.span.stop ≤ Utf8.size u' →
        matchAt? p.node (.between u' v') = none) :
    p.findAll text = [m] := by
  have hstart : m.span.start = Utf8.size u := start_of_matchAt? hm
  have hinside : ∀ m' ∈ p.findAll text,
      Utf8.size u ≤ m'.span.start ∧ m'.span.start < m.span.stop := by
    intro m' hm'
    obtain ⟨u', v', ht', hmatch⟩ := exists_place_of_mem_findAll hm'
    have hstart' : m'.span.start = Utf8.size u' := start_of_matchAt? hmatch
    by_contra hout
    rw [hothers u' v' ht' (by omega)] at hmatch
    cases hmatch
  have hfound : m ∈ p.findAll text := by
    rcases mem_findAll_or_overlapped ht hm hne with hfound | ⟨m', hm', hlt, -⟩
    · exact hfound
    · have := (hinside m' hm').1
      omega
  -- No other match starts inside this one, and none starts twice.
  have hordered := pairwise_findAll p text
  obtain ⟨before, after, hsplit⟩ := List.append_of_mem hfound
  rw [hsplit] at hordered hinside
  obtain ⟨-, hafter, hbefore⟩ := List.pairwise_append.mp hordered
  obtain ⟨hafter, -⟩ := List.pairwise_cons.mp hafter
  have hnil : before = [] := by
    refine List.eq_nil_iff_forall_not_mem.mpr fun m' hm' => ?_
    have := (hbefore m' hm' m List.mem_cons_self).1
    have := (hinside m' (List.mem_append_left _ hm')).1
    omega
  have hnil' : after = [] := by
    refine List.eq_nil_iff_forall_not_mem.mpr fun m' hm' => ?_
    have := (hafter m' hm').2
    have := (hinside m' (List.mem_append_right _ (List.mem_cons_of_mem _ hm'))).2
    omega
  rw [hsplit, hnil, hnil']
  rfl

end Timephrase.Pattern
