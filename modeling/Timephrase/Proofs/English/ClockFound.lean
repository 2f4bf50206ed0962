import Timephrase.Proofs.English.Clock
import Timephrase.Proofs.Pattern.Yield

/-!
# Finding times of day

Where a time of day is written and a blank follows, the pattern for times of day finds a match that
reaches the end of what is written, although it may have tried a longer hour first.

## Main results

* `English.Clock.exists_match`: the pattern finds a time of day that a blank follows
-/

namespace Timephrase.English

open Pattern Pattern.Node Pattern.Cursor

variable {k : Cursor → List (Nat × Span) → Option Match} {P : Option Match → Prop}
  {u v w : List Char} {b ch : Char} {start stop : Nat}

/-! ## The minute and the hour -/

/-- Nothing but a mark or a digit starts a minute. -/
theorem yields_minute_of_not_mem (hdigit : digitSet.mem ch = false) (hmark : markSet.mem ch = false)
    (h : Yields k (between u (ch :: v)) P) :
    Yields (minuteNode.first k) (between u (ch :: v)) P := by
  refine yields_optional_of_fails (yields_ofItems ?_) h
  exact yields_run_zero_of_not_mem hmark (yields_group (fails_run_succ hdigit))

/-- A single digit is no minute. -/
theorem fails_minute_of_digit (hch : digitSet.mem ch = true) {b : Char}
    (hb : digitSet.mem b = false) (h : Yields k (between u (ch :: b :: v)) (· = none)) :
    Yields (minuteNode.first k) (between u (ch :: b :: v)) (· = none) := by
  have hmark : markSet.mem ch = false := CharSet.mem_eq_false_of_inter (by decide) hch
  refine yields_optional_of_fails (yields_ofItems ?_) h
  exact yields_run_zero_of_not_mem hmark
    (yields_group (yields_run_succ hch (fails_run_succ hb)))

/-- A minute that is written is gone through. -/
theorem reaches_minute {minute : List Char} (hminute : IsMinute minute)
    (hdigit : digitSet.mem ch = false) (hmark : markSet.mem ch = false)
    (h : Yields k (between (u ++ minute) (ch :: v)) (Reaches stop)) :
    Yields (minuteNode.first k) (between u (minute ++ ch :: v)) (Reaches stop) := by
  cases hminute with
  | none =>
    rw [List.append_nil] at h
    exact yields_minute_of_not_mem hdigit hmark h
  | @plain d d' hd hd' =>
    have hnot : markSet.mem d = false := CharSet.mem_eq_false_of_inter (by decide) hd
    refine reaches_optional (yields_ofItems (yields_run_zero_of_not_mem hnot (yields_group ?_)))
    refine yields_run_succ hd (yields_run_succ hd' (yields_run_zero fun gs => ?_))
    simpa [firstOfRow] using h _
  | @marked p d d' hp hd hd' =>
    refine reaches_optional (yields_ofItems ?_)
    refine reaches_run_zero hp (yields_run_zero (yields_group ?_))
    refine yields_run_succ hd (yields_run_succ hd' (yields_run_zero fun gs => ?_))
    simpa [firstOfRow] using h _

/-- **An hour and a minute that are written are gone through**, if nothing can be found between two
digits. -/
theorem reaches_hour {hour minute : List Char} (hhour : IsHour hour) (hminute : IsMinute minute)
    (hdigit : digitSet.mem ch = false) (hmark : markSet.mem ch = false)
    (hfails : ∀ w d d' v, digitSet.mem d = true → digitSet.mem d' = true →
      Yields k (between (w ++ [d]) (d' :: v)) (· = none))
    (h : Yields k (between (u ++ hour ++ minute) (ch :: v)) (Reaches stop)) :
    Yields ((group 1 (oneOrTwo digitSet)).first (minuteNode.first k))
      (between u (hour ++ minute ++ ch :: v)) (Reaches stop) := by
  have hrest : ∀ gs, Reaches stop
      (minuteNode.first k (between (u ++ hour) (minute ++ ch :: v)) gs) :=
    reaches_minute hminute hdigit hmark h
  rw [List.append_assoc]
  refine yields_group ?_
  cases hhour with
  | @two d d' hd hd' =>
    refine yields_run_succ hd (reaches_run_zero hd' (yields_run_zero fun gs => ?_))
    simpa using hrest _
  | @one d hd =>
    refine yields_run_succ hd ?_
    cases hminute with
    | none => exact yields_run_zero_of_not_mem hdigit fun gs => hrest _
    | @marked p m m' hp hm hm' =>
      have hnot : digitSet.mem p = false := CharSet.mem_eq_false_of_inter (by decide) hp
      exact yields_run_zero_of_not_mem hnot fun gs => hrest _
    | @plain m m' hm hm' =>
      -- The first digit of the minute is tried as part of the hour, which leaves too few.
      refine reaches_run_zero_of_ifAny hm (yields_run_zero fun gs => ?_) fun gs => hrest _
      have hnone : Yields (minuteNode.first k) (between (u ++ [d] ++ [m]) (m' :: ch :: v))
          (· = none) := fails_minute_of_digit hm' hdigit (hfails _ _ _ _ hm hm')
      exact hnone.reachesIfAny _

/-! ## The half of the day -/

theorem halfNode_eq : halfNode =
    .times (.group 3 (.alt (ofItems [letter 'a', letter 'm']) (ofItems [letter 'p', letter 'm'])))
      0 (some 1) true := by
  simp [halfNode, optional, ofItems, ofBranches, letters]

/-- The letters of a half of the day start with one of two. -/
theorem fails_half {a : Char} (ha : (letterSet a).mem ch = false) :
    Yields ((ofItems [letter a, letter 'm']).first k) (between u (ch :: v)) (· = none) :=
  yields_ofItems (fails_set ha)

/-- Nothing but a letter starts a half of the day. -/
theorem yields_half_of_not_mem (hch : halfSet.mem ch = false)
    (h : Yields k (between u (ch :: v)) P) :
    Yields (halfNode.first k) (between u (ch :: v)) P := by
  have hnot : ¬ ((letterSet 'a').mem ch = true ∨ (letterSet 'p').mem ch = true) := by
    rw [← mem_halfSet, hch]
    exact Bool.false_ne_true
  obtain ⟨ha, hp⟩ := not_or.mp hnot
  rw [halfNode_eq]
  refine yields_optional_of_fails (yields_group ?_) h
  exact yields_alt_of_fails (fails_half (Bool.eq_false_iff.mpr ha))
    (fails_half (Bool.eq_false_iff.mpr hp))

/-- A half of the day that is written is gone through. -/
theorem reaches_half {x m : Char} (hx : halfSet.mem x = true) (hm : (letterSet 'm').mem m = true)
    (h : Yields k (between (u ++ [x, m]) v) (Reaches stop)) :
    Yields (halfNode.first k) (between u (x :: m :: v)) (Reaches stop) := by
  have hword : ∀ a, (letterSet a).mem x = true →
      Yields ((ofItems [letter a, letter 'm']).first fun d gs =>
        k d ((3, ⟨Utf8.size u, d.offset⟩) :: gs)) (between u (x :: m :: v)) (Reaches stop) := by
    intro a ha
    refine yields_ofItems (yields_set ha (yields_set hm fun gs => ?_))
    simpa [firstOfRow] using h _
  rw [halfNode_eq]
  refine reaches_optional (yields_group ?_)
  by_cases ha : (letterSet 'a').mem x = true
  -- The branches differ in their first letter alone.
  · exact reaches_alt_left (hword 'a' ha)
  · have hp : (letterSet 'p').mem x = true := (mem_halfSet.mp hx).resolve_left ha
    exact yields_alt_of_fails (fails_half (Bool.eq_false_iff.mpr ha)) (hword 'p' hp)

/-! ## After the minute -/

/-- What the pattern for times of day has after the minute. -/
def restNodes : List Node := [optionalSet blankSet, halfNode, edge]

/-- Nothing is found between two digits. -/
theorem fails_rest_of_digits {d d' : Char} (hd : digitSet.mem d = true)
    (hd' : digitSet.mem d' = true) :
    Yields (firstOfRow (ended start) restNodes) (between (u ++ [d]) (d' :: v)) (· = none) := by
  have hblank : blankSet.mem d' = false := CharSet.mem_eq_false_of_inter (by decide) hd'
  have hhalf : halfSet.mem d' = false := CharSet.mem_eq_false_of_inter (by decide) hd'
  refine yields_run_zero_of_not_mem hblank (yields_half_of_not_mem hhalf (fails_look ?_))
  simp [Look.HoldsAt, Look.holds, WordEdge.holds, between, isWord_of_digit hd, isWord_of_digit hd']

/-- The edge of a word stands between a letter or digit and a blank. -/
theorem holdsAt_before_blank (hch : Word.isWord ch = true) (hb : blankSet.mem b = true) :
    (Look.word .boundary false).HoldsAt (between (u ++ [ch]) (b :: v)) := by
  have hnot : Word.isWord b = false := Word.isWord_of_isBlank hb
  simp [Look.HoldsAt, Look.holds, WordEdge.holds, between, hch, hnot]

theorem reaches_ended {c : Cursor} (hedge : (Look.word .boundary false).HoldsAt c) :
    Yields (firstOfRow (ended start) [edge]) c (Reaches c.offset) :=
  yields_look hedge fun _ => ⟨_, rfl, Nat.le_refl _⟩

/-- Before a blank a time of day may end. -/
theorem reaches_rest_of_blank (hch : Word.isWord ch = true) (hb : blankSet.mem b = true) :
    Yields (firstOfRow (ended start) restNodes) (between (u ++ [ch]) (b :: v))
      (Reaches (Utf8.size (u ++ [ch]))) := by
  have hhalf : halfSet.mem b = false := CharSet.mem_eq_false_of_inter (by decide) hb
  have hended : Yields (firstOfRow (ended start) [edge]) (between (u ++ [ch]) (b :: v))
      (Reaches (Utf8.size (u ++ [ch]))) := reaches_ended (holdsAt_before_blank hch hb)
  -- The blank is tried first, and what is found after it reaches far enough; else it is left out.
  refine reaches_run_zero_of_ifAny hb ?_ (yields_half_of_not_mem hhalf hended)
  have hmore : Yields
      ((run blankSet 0 (some 0) true).first (firstOfRow (ended start) [halfNode, edge]))
      (between (u ++ [ch] ++ [b]) v) (ReachesIfAny (Utf8.size (u ++ [ch] ++ [b]))) :=
    reachesIfAny_row (run blankSet 0 (some 0) true :: [halfNode, edge])
  refine hmore.mono ?_
  rw [Utf8.size_append _ [b]]
  exact Nat.le_add_right _ _

/-- A half of the day before a blank is the end of a time of day. -/
theorem reaches_rest_of_half {gap : List Char} {x m : Char} (hgap : IsGap gap)
    (hx : halfSet.mem x = true) (hm : (letterSet 'm').mem m = true) (hb : blankSet.mem b = true) :
    Yields (firstOfRow (ended start) restNodes) (between u (gap ++ x :: m :: b :: v))
      (Reaches (Utf8.size (u ++ gap ++ [x, m]))) := by
  have hhalf : ∀ w, Yields (firstOfRow (ended start) [halfNode, edge])
      (between w (x :: m :: b :: v)) (Reaches (Utf8.size (w ++ [x, m]))) := by
    intro w
    have hedge : (Look.word .boundary false).HoldsAt (between (w ++ [x, m]) (b :: v)) := by
      rw [List.append_cons w x]
      exact holdsAt_before_blank (Word.isWord_of_mem (by decide) hm) hb
    exact reaches_half hx hm (reaches_ended hedge)
  cases hgap with
  | none =>
    have hblank : blankSet.mem x = false := CharSet.mem_eq_false_of_inter (by decide) hx
    rw [List.append_nil]
    exact yields_run_zero_of_not_mem hblank (hhalf u)
  | @blank b' hb' => exact reaches_run_zero hb' (yields_run_zero (hhalf (u ++ [b'])))

/-! ## The whole time of day -/

namespace Clock

variable {k : Clock}

/-- A time of day is found if what comes after its minute is. -/
theorem exists_matchAt? {rest : List Char} (hch : halfSet.mem ch = true ∨ blankSet.mem ch = true)
    (hedge : (Look.word .boundary false).HoldsAt
      (between u (k.lead ++ (k.hour ++ k.minute ++ ch :: rest))))
    (h : Yields (firstOfRow (ended (Utf8.size u)) restNodes)
      (between (u ++ k.lead ++ k.hour ++ k.minute) (ch :: rest)) (Reaches stop)) :
    ∃ m, matchAt? atTimeNode (between u (k.lead ++ (k.hour ++ k.minute ++ ch :: rest))) = some m ∧
      stop ≤ m.span.stop := by
  have hnot : digitSet.mem ch = false ∧ markSet.mem ch = false := by
    rcases hch with hch | hch
    · exact ⟨CharSet.mem_eq_false_of_inter (by decide) hch,
        CharSet.mem_eq_false_of_inter (by decide) hch⟩
    · exact ⟨CharSet.mem_eq_false_of_inter (by decide) hch,
        CharSet.mem_eq_false_of_inter (by decide) hch⟩
  have hclock : Yields (firstOfRow (ended (Utf8.size u))
      ([.group 1 (oneOrTwo digitSet), minuteNode] ++ restNodes))
      (between (u ++ [k.a] ++ [k.t] ++ [k.blank]) (k.hour ++ k.minute ++ ch :: rest))
      (Reaches stop) := by
    -- The word "at" and its blank are read as they stand; the hour may be tried longer than it is.
    refine reaches_hour k.isHour k.isMinute hnot.1 hnot.2
      (fun _ _ _ _ hd hd' => fails_rest_of_digits hd hd') ?_
    simpa [lead] using h
  have hall : Yields (atTimeNode.first (ended (Utf8.size u)))
      (between u (k.lead ++ (k.hour ++ k.minute ++ ch :: rest))) (Reaches stop) :=
    yields_ofItems (yields_look hedge
      (yields_set k.a_mem (yields_set k.t_mem (yields_set k.blank_mem hclock))))
  rw [matchAt?_eq_first (by decide)]
  exact hall []

/-- Without a half of the day all blanks come after the minute, and one of them is enough. -/
theorem exists_match_of_no_half {gap : List Char} (hgap : IsGap gap) (hhalf : k.half = [])
    (hne : k.gap ++ gap ≠ [])
    (hedge : (Look.word .boundary false).HoldsAt (between u (k.word ++ gap ++ v))) :
    ∃ stem blanks m, k.word ++ gap = stem ++ blanks ∧ (∀ ch ∈ blanks, blankSet.mem ch = true) ∧
      matchAt? atTimeNode (between u (k.word ++ gap ++ v)) = some m ∧
      Utf8.size (u ++ stem) ≤ m.span.stop := by
  have hblanks : ∀ ch ∈ k.gap ++ gap, blankSet.mem ch = true := by
    intro ch hch
    rcases List.mem_append.mp hch with hch | hch
    · exact k.isGap.blankSet_of_mem ch hch
    · exact hgap.blankSet_of_mem ch hch
  obtain ⟨b, blanks, hb⟩ := List.exists_cons_of_ne_nil hne
  have hword : k.word ++ gap ++ v = k.lead ++ (k.hour ++ k.minute ++ b :: (blanks ++ v)) := by
    rw [← List.cons_append, ← hb, word, signs, hhalf]
    simp
  -- The minute ends with a digit, so that an edge of a word stands before the blank.
  obtain ⟨w, d, hd, hlast⟩ := exists_last_digit k.isHour k.isMinute
  have hstem : u ++ k.lead ++ k.hour ++ k.minute = u ++ k.lead ++ w ++ [d] := by
    rw [List.append_assoc _ k.hour, hlast, List.append_assoc _ w]
  rw [hb] at hblanks
  have hbmem : blankSet.mem b = true := hblanks b List.mem_cons_self
  rw [hword] at hedge ⊢
  have hrest : Yields (firstOfRow (ended (Utf8.size u)) restNodes)
      (between (u ++ k.lead ++ k.hour ++ k.minute) (b :: (blanks ++ v)))
      (Reaches (Utf8.size (u ++ k.lead ++ k.hour ++ k.minute))) := by
    rw [hstem]
    exact reaches_rest_of_blank (isWord_of_digit hd) hbmem
  obtain ⟨m, hm, hstop⟩ := exists_matchAt? (Or.inr hbmem) hedge hrest
  refine ⟨k.lead ++ (k.hour ++ k.minute), b :: blanks, m, ?_, hblanks, hm, ?_⟩
  · rw [← hb, word, signs, hhalf]
    simp
  · simpa using hstop

/-- A half of the day is found to its end, if a blank comes after it. -/
theorem exists_match_of_half {x m b : Char} (hhalf : k.half = [x, m]) (hx : halfSet.mem x = true)
    (hm : (letterSet 'm').mem m = true) (hb : blankSet.mem b = true)
    (hedge : (Look.word .boundary false).HoldsAt (between u (k.word ++ [b] ++ v))) :
    ∃ found, matchAt? atTimeNode (between u (k.word ++ [b] ++ v)) = some found ∧
      Utf8.size (u ++ k.word) ≤ found.span.stop := by
  -- After the minute comes a blank or the first letter of the half of the day.
  obtain ⟨ch, rest, hcons, hch⟩ : ∃ ch rest, k.gap ++ x :: m :: b :: v = ch :: rest ∧
      (halfSet.mem ch = true ∨ blankSet.mem ch = true) := by
    cases hkgap : k.gap with
    | nil => exact ⟨x, m :: b :: v, rfl, Or.inl hx⟩
    | cons b' bs =>
      refine ⟨b', bs ++ x :: m :: b :: v, rfl, Or.inr (k.isGap.blankSet_of_mem b' ?_)⟩
      rw [hkgap]
      exact List.mem_cons_self
  have hword : k.word ++ [b] ++ v = k.lead ++ (k.hour ++ k.minute ++ ch :: rest) := by
    rw [← hcons, word, signs, hhalf]
    simp
  rw [hword] at hedge ⊢
  have hrest : Yields (firstOfRow (ended (Utf8.size u)) restNodes)
      (between (u ++ k.lead ++ k.hour ++ k.minute) (ch :: rest))
      (Reaches (Utf8.size (u ++ k.lead ++ k.hour ++ k.minute ++ k.gap ++ [x, m]))) := by
    rw [← hcons]
    exact reaches_rest_of_half k.isGap hx hm hb
  obtain ⟨found, hfound, hstop⟩ := exists_matchAt? hch hedge hrest
  refine ⟨found, hfound, ?_⟩
  rw [word, signs, hhalf]
  simpa using hstop

/-- **A time of day that a blank follows is found**: the match reaches the end of what is written,
but for blanks. -/
theorem exists_match {gap : List Char} (hgap : IsGap gap)
    (hblank : gap ≠ [] ∨ k.half = [] ∧ k.gap ≠ [])
    (hedge : (Look.word .boundary false).HoldsAt (between u (k.word ++ gap ++ v))) :
    ∃ stem blanks m, k.word ++ gap = stem ++ blanks ∧ (∀ ch ∈ blanks, blankSet.mem ch = true) ∧
      matchAt? atTimeNode (between u (k.word ++ gap ++ v)) = some m ∧
      Utf8.size (u ++ stem) ≤ m.span.stop := by
  rcases k.half_cases with hhalf | ⟨x, m, hhalf, hx, hm⟩
  · have hne : k.gap ++ gap ≠ [] := by
      rcases hblank with hne | ⟨-, hne⟩
      · exact List.append_ne_nil_of_right_ne_nil _ hne
      · exact List.append_ne_nil_of_left_ne_nil hne _
    exact exists_match_of_no_half hgap hhalf hne hedge
  · have hne : gap ≠ [] := by
      rcases hblank with hne | ⟨hnil, -⟩
      · exact hne
      · rw [hhalf] at hnil
        cases hnil
    obtain ⟨b, hb, rfl⟩ := hgap.exists_of_ne_nil hne
    obtain ⟨found, hfound, hstop⟩ := exists_match_of_half hhalf hx hm hb hedge
    exact ⟨k.word, [b], found, rfl, by simpa using hb, hfound, hstop⟩

end Clock

end Timephrase.English
