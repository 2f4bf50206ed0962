import Timephrase.Proofs.Pattern.Way

/-!
# Ways in order of preference

In a node whose only repetitions are runs of characters and parts that may be left out, the ways
from a place can be listed one after another, the preferred one first, with no search and nothing to
be seen twice.  Its stops are the ends of the listed ways, each place once.  So its preferred match
can be found by trying the parts in turn, each with what is still to come.

## Main definitions

* `Node.isLoopFree`: whether a node has no other repetitions
* `Node.ways`: the ways through such a node in order of preference
* `Node.first`: the first way after which something succeeds

## Main results

* `Node.stops_eq_firstWays`: the stops are the ends of the listed ways
* `matchAt?_eq_first`: the preferred match is that of the first way
* `Node.first_seq`, `Node.first_alt`, `Node.first_optional`: the first way, part by part
-/

namespace Timephrase

/-- A set of places is known by its members. -/
theorem Places.ext_contains {s t : Places} (h : ∀ n, s.contains n = t.contains n) : s = t := by
  obtain ⟨_⟩ := s
  obtain ⟨_⟩ := t
  exact congrArg Places.mk (Nat.eq_of_testBit_eq h)

namespace Pattern

namespace Node

/-! ## Nodes without loops -/

/-- Whether the only repetitions in a node are runs and parts that may be left out. -/
def isLoopFree : Node → Bool
  | group _ body => body.isLoopFree
  | seq first second => first.isLoopFree && second.isLoopFree
  | alt first second => first.isLoopFree && second.isLoopFree
  | times body least greatest _ => least == 0 && greatest == some 1 && body.isLoopFree
  | _ => true

/-- The ways from a place through a node without loops, in order of preference: where they end and
the groups that they record, the latest first. -/
def ways : Node → Cursor → List (Cursor × List (Nat × Span))
  | empty, c => [(c, [])]
  | set s, c =>
    match c.rest with
    | [] => []
    | ch :: rest => if s.mem ch then [(.next c.offset ch rest, [])] else []
  | run s least greatest greedy, c =>
    let places := (Cursor.run s (greatest.getD c.rest.length) c.offset c.before c.rest).drop least
    (if greedy then places.reverse else places).map fun d => (d, [])
  | look l, c => if l.holds c.before c.rest.head? then [(c, [])] else []
  | group index body, c => (ways body c).map fun w => (w.1, (index, ⟨c.offset, w.1.offset⟩) :: w.2)
  | seq first second, c =>
    (ways first c).flatMap fun w => (ways second w.1).map fun w' => (w'.1, w'.2 ++ w.2)
  | alt first second, c => ways first c ++ ways second c
  | times body _ _ greedy, c => if greedy then ways body c ++ [(c, [])] else (c, []) :: ways body c

theorem mem_ways_run {s : CharSet} {least : Nat} {greatest : Option Nat} {greedy : Bool}
    {c d : Cursor} {gs : List (Nat × Span)} :
    (d, gs) ∈ (run s least greatest greedy).ways c ↔
      d ∈ (Cursor.run s (greatest.getD c.rest.length) c.offset c.before c.rest).drop least ∧
        gs = [] := by
  have hmap : ∀ ds : List Cursor, (d, gs) ∈ ds.map (fun d => (d, [])) ↔ d ∈ ds ∧ gs = [] := by
    intro ds
    simp only [List.mem_map, Prod.mk.injEq, eq_comm (a := gs)]
    exact ⟨fun ⟨e, he, hed, hgs⟩ => ⟨hed ▸ he, hgs⟩, fun ⟨hd, hgs⟩ => ⟨d, hd, rfl, hgs⟩⟩
  rw [ways, hmap]
  cases greedy with
  | true => rw [if_pos rfl, List.mem_reverse]
  | false => rw [if_neg Bool.false_ne_true]

/-- A part that may be left out is gone through, or the way stays where it is. -/
theorem mem_ways_times {body : Node} {least : Nat} {greatest : Option Nat} {greedy : Bool}
    {c d : Cursor} {gs : List (Nat × Span)} :
    (d, gs) ∈ (times body least greatest greedy).ways c ↔
      (d, gs) ∈ body.ways c ∨ d = c ∧ gs = [] := by
  cases greedy with
  | true => simp [ways]
  | false => simp [ways, or_comm]

/-- Each listed way reads the characters between its ends. -/
theorem exists_reads_of_mem_ways {node : Node} {c d : Cursor} {gs : List (Nat × Span)}
    (h : (d, gs) ∈ node.ways c) : ∃ w, c.Reads w d := by
  induction node generalizing c d gs with
  | empty =>
    obtain ⟨rfl, -⟩ := Prod.mk.inj (List.mem_singleton.mp (by simpa [ways] using h))
    exact ⟨[], .refl _⟩
  | set s =>
    simp only [ways] at h
    split at h
    · cases h
    · next ch rest hrest =>
      split at h
      · obtain ⟨rfl, -⟩ := Prod.mk.inj (List.mem_singleton.mp h)
        exact ⟨[ch], Cursor.Reads.single hrest⟩
      · cases h
  | run s least greatest greedy =>
    obtain ⟨hd', -⟩ := mem_ways_run.mp h
    obtain ⟨w, -, -, -, hw⟩ := Cursor.exists_of_mem_drop_run hd'
    exact ⟨w, hw⟩
  | look l =>
    simp only [ways] at h
    split at h
    · obtain ⟨rfl, -⟩ := Prod.mk.inj (List.mem_singleton.mp h)
      exact ⟨[], .refl _⟩
    · cases h
  | group index body ih =>
    simp only [ways, List.mem_map, Prod.mk.injEq] at h
    obtain ⟨⟨d', gs'⟩, hw, rfl, -⟩ := h
    exact ih hw
  | seq first second ih₁ ih₂ =>
    simp only [ways, List.mem_flatMap, List.mem_map, Prod.mk.injEq] at h
    obtain ⟨⟨e, hs⟩, he, ⟨d', ks⟩, hd, rfl, -⟩ := h
    obtain ⟨w, hw⟩ := ih₁ he
    obtain ⟨w', hw'⟩ := ih₂ hd
    exact ⟨w ++ w', hw.trans hw'⟩
  | alt first second ih₁ ih₂ =>
    rcases List.mem_append.mp h with h | h
    · exact ih₁ h
    · exact ih₂ h
  | times body least greatest greedy ih =>
    rcases mem_ways_times.mp h with h | ⟨rfl, -⟩
    · exact ih h
    · exact ⟨[], .refl _⟩

end Node

/-! ## The first way to each place -/

namespace Progress

/-- Some places and those of some ways. -/
def reached (seen : Places) (ps : List Progress) : Places :=
  ps.foldl (fun seen p => seen.insert p.offset) seen

variable {seen seen' : Places} {p : Progress} {ps qs : List Progress} {n : Nat}

theorem contains_reached :
    (reached seen ps).contains n = true ↔ seen.contains n = true ∨ ∃ p ∈ ps, p.offset = n := by
  induction ps generalizing seen with
  | nil => simp [reached]
  | cons p ps ih =>
    have h : reached seen (p :: ps) = reached (seen.insert p.offset) ps := rfl
    rw [h, ih]
    simp [or_assoc]

/-- A place that has been seen is not reached anew. -/
theorem reached_insert (h : seen.contains p.offset = true) :
    reached (seen.insert p.offset) ps = reached seen ps := by
  refine Places.ext_contains fun n => Bool.eq_iff_iff.mpr ?_
  simp only [contains_reached, Places.contains_insert, Bool.or_eq_true, decide_eq_true_eq]
  constructor
  · rintro ((h' | rfl) | h')
    · exact Or.inl h'
    · exact Or.inl h
    · exact Or.inr h'
  · rintro (h' | h')
    · exact Or.inl (Or.inl h')
    · exact Or.inr h'

theorem firstUnseen_append :
    firstUnseen seen (ps ++ qs) = firstUnseen seen ps ++ firstUnseen (reached seen ps) qs := by
  induction ps generalizing seen with
  | nil => rfl
  | cons p ps ih =>
    have h : reached seen (p :: ps) = reached (seen.insert p.offset) ps := rfl
    simp only [List.cons_append, firstUnseen, h]
    split
    · next hp => rw [ih, reached_insert hp]
    · rw [ih, List.cons_append]

/-- A second look at the ways, with more places seen before, loses nothing. -/
theorem firstUnseen_firstUnseen (h : ∀ n, seen'.contains n = true → seen.contains n = true) :
    firstUnseen seen (firstUnseen seen' ps) = firstUnseen seen ps := by
  induction ps generalizing seen seen' with
  | nil => rfl
  | cons p ps ih =>
    have hinsert : ∀ n, (seen'.insert p.offset).contains n = true →
        (seen.insert p.offset).contains n = true := by
      intro n hn
      simp only [Places.contains_insert, Bool.or_eq_true] at hn ⊢
      exact hn.imp_left (h n)
    -- Either neither look keeps `p`, or only the second one drops it, or both keep it.
    by_cases hp' : seen'.contains p.offset = true
    · have hp := h _ hp'
      simp only [firstUnseen, hp', hp, if_true]
      exact ih h
    · by_cases hp : seen.contains p.offset = true
      · simp only [firstUnseen, hp', hp, if_true, if_false, Bool.false_eq_true]
        refine ih fun n hn => ?_
        simp only [Places.contains_insert, Bool.or_eq_true, decide_eq_true_eq] at hn
        rcases hn with hn | rfl
        · exact h n hn
        · exact hp
      · simp only [firstUnseen, hp', hp, if_false, Bool.false_eq_true]
        rw [ih hinsert]

theorem firstWays_firstWays : firstWays (firstWays ps) = firstWays ps :=
  firstUnseen_firstUnseen fun _ h => h

theorem firstUnseen_eq_nil (h : ∀ p ∈ ps, seen.contains p.offset = true) :
    firstUnseen seen ps = [] := by
  induction ps with
  | nil => rfl
  | cons p ps ih =>
    simp only [firstUnseen, h p List.mem_cons_self, if_true]
    exact ih fun q hq => h q (List.mem_cons_of_mem _ hq)

/-- Each place of some ways that has not been seen is that of a first way. -/
theorem exists_mem_firstUnseen (hp : p ∈ ps) (hseen : seen.contains p.offset = false) :
    ∃ q ∈ firstUnseen seen ps, q.offset = p.offset := by
  induction ps generalizing seen with
  | nil => cases hp
  | cons r ps ih =>
    simp only [firstUnseen]
    split
    · next hr =>
      rcases List.mem_cons.mp hp with rfl | hp
      · rw [hseen] at hr
        cases hr
      · exact ih hp hseen
    · by_cases hrp : r.offset = p.offset
      -- The way `r` is the first one to the place of `p`.
      · exact ⟨r, List.mem_cons_self, hrp⟩
      · rcases List.mem_cons.mp hp with rfl | hp
        · exact absurd rfl hrp
        · have hseen' : (seen.insert r.offset).contains p.offset = false := by simp [hseen, hrp]
          obtain ⟨q, hq, hqp⟩ := ih hp hseen'
          exact ⟨q, List.mem_cons_of_mem _ hq, hqp⟩

theorem reached_firstWays : reached seen (firstWays ps) = reached seen ps := by
  refine Places.ext_contains fun n => Bool.eq_iff_iff.mpr ?_
  simp only [contains_reached]
  refine or_congr Iff.rfl ⟨?_, ?_⟩
  · rintro ⟨p, hp, rfl⟩
    exact ⟨p, mem_of_mem_firstUnseen hp, rfl⟩
  · rintro ⟨p, hp, rfl⟩
    exact exists_mem_firstUnseen hp (Places.contains_none _)

theorem firstWays_singleton : firstWays [p] = [p] := by
  simp [firstWays, firstUnseen]

theorem firstWays_append_firstWays :
    firstWays (firstWays ps ++ firstWays qs) = firstWays (ps ++ qs) := by
  have happend : ∀ ps qs : List Progress,
      firstWays (ps ++ qs) = firstWays ps ++ firstUnseen (reached .none ps) qs :=
    fun _ _ => firstUnseen_append
  have hnone : ∀ n, Places.none.contains n = true → (reached .none ps).contains n = true := by simp
  rw [happend, happend, reached_firstWays, firstWays_firstWays]
  exact congrArg _ (firstUnseen_firstUnseen hnone)

theorem head?_firstWays : (firstWays ps).head? = ps.head? := by
  cases ps with
  | nil => rfl
  | cons p ps => simp [firstWays, firstUnseen]

theorem firstUnseen_map {f : Progress → Progress} (hf : ∀ p, (f p).offset = p.offset) :
    firstUnseen seen (ps.map f) = (firstUnseen seen ps).map f := by
  induction ps generalizing seen with
  | nil => rfl
  | cons p ps ih =>
    simp only [List.map_cons, firstUnseen, hf, ih]
    split
    · rfl
    · rfl

/-- **Going on from the first way to each place is enough**, provided that ways to one place have
ways on to the same places. -/
theorem firstUnseen_flatMap {f : Progress → List Progress}
    (hsame : ∀ p ∈ ps, ∀ q ∈ ps, p.offset = q.offset → ∀ r ∈ f q, ∃ r' ∈ f p, r'.offset = r.offset)
    (hseen : ∀ p ∈ ps, seen.contains p.offset = true → ∀ r ∈ f p, seen'.contains r.offset = true) :
    firstUnseen seen' ((firstUnseen seen ps).flatMap fun p => firstWays (f p)) =
      firstUnseen seen' (ps.flatMap f) := by
  induction ps generalizing seen seen' with
  | nil => rfl
  | cons p ps ih =>
    have hsame' : ∀ q ∈ ps, ∀ q' ∈ ps, q.offset = q'.offset →
        ∀ r ∈ f q', ∃ r' ∈ f q, r'.offset = r.offset :=
      fun q hq q' hq' => hsame q (List.mem_cons_of_mem _ hq) q' (List.mem_cons_of_mem _ hq')
    rw [List.flatMap_cons, firstUnseen_append]
    by_cases hp : seen.contains p.offset = true
    · -- What follows `p` has been reached before.
      have hnil : firstUnseen seen' (f p) = [] :=
        firstUnseen_eq_nil (hseen p List.mem_cons_self hp)
      have hreached : reached seen' (f p) = seen' := by
        refine Places.ext_contains fun n => Bool.eq_iff_iff.mpr ?_
        rw [contains_reached]
        refine ⟨?_, Or.inl⟩
        rintro (h | ⟨r, hr, rfl⟩)
        · exact h
        · exact hseen p List.mem_cons_self hp r hr
      simp only [firstUnseen, hp, if_true]
      rw [hnil, hreached, List.nil_append]
      exact ih hsame' fun q hq => hseen q (List.mem_cons_of_mem _ hq)
    -- What follows `p` is kept, and a later way to the same place adds nothing to it.
    · simp only [firstUnseen, hp, if_false, Bool.false_eq_true]
      rw [List.flatMap_cons, firstUnseen_append, reached_firstWays]
      refine congrArg₂ _ (firstUnseen_firstUnseen (by simp)) (ih hsame' ?_)
      intro q hq hpq r hr
      rw [contains_reached]
      simp only [Places.contains_insert, Bool.or_eq_true, decide_eq_true_eq] at hpq
      rcases hpq with hpq | hpq
      · exact Or.inl (hseen q (List.mem_cons_of_mem _ hq) hpq r hr)
      · exact Or.inr (hsame p List.mem_cons_self q (List.mem_cons_of_mem _ hq) hpq r hr)

theorem onward_eq_firstWays {f : Progress → List Progress} (h : ∀ p ∈ ps, firstWays (f p) = f p) :
    onward ps f = firstWays (ps.flatMap f) := by
  match ps, h with
  | [], _ => rfl
  | [p], h => simp [onward, h p (List.mem_singleton_self p)]
  | p :: q :: ps, _ => rfl

end Progress

namespace Node

/-! ## The stops are the ends of the listed ways -/

/-- The progress along a way, given the groups recorded before. -/
def along (gs : List (Nat × Span)) (w : Cursor × List (Nat × Span)) : Progress :=
  ⟨w.1, w.2 ++ gs, []⟩

theorem along_append (gs hs : List (Nat × Span)) (w : Cursor × List (Nat × Span)) :
    along gs (w.1, w.2 ++ hs) = along (hs ++ gs) w := by
  simp [along]

/-- A part that may be left out is searched once, and left out once. -/
theorem repeated_optional (body : Nat → Progress → List Progress)
    (after : Progress → Option Progress)
    (greedy mayBeEmpty : Bool) (p : Progress) :
    repeated body (fun _ => some) after greedy mayBeEmpty 0 (some 1) p =
      Progress.firstWays (if greedy then body 0 p ++ [p] else p :: body 0 p) := by
  have hfold : ∀ (qs : List Progress) (s : Search),
      (qs.foldl Search.stop s).ways = qs.reverse ++ s.ways := by
    intro qs
    induction qs with
    | nil => exact fun s => rfl
    | cons q qs ih =>
      intro s
      rw [List.foldl_cons, ih]
      simp [Search.stop]
  -- With one copy left, each stop of the body is an end.
  have hmore : ∀ (s : Search), (atMost body (fun _ => some) greedy 0 0 1 p s) =
      (s.meet? 0 p.offset).elim s fun s =>
        if greedy then ((body 0 p).foldl Search.stop s).stop p
        else (body 0 p).foldl Search.stop (s.stop p) := by
    intro s
    cases hmeet : s.meet? 0 p.offset with
    | none => simp only [atMost, hmeet, Option.elim_none]
    | some s' =>
      simp only [atMost, hmeet, Option.elim_some]
  have hmeet : (⟨[], []⟩ : Search).meet? 0 p.offset = some ⟨[Places.none.insert p.offset], []⟩ := by
    simp [Search.meet?, Search.meetAt]
  have hall : repeated body (fun _ => some) after greedy mayBeEmpty 0 (some 1) p =
      Progress.firstWays (atMost body (fun _ => some) greedy 0 0 1 p ⟨[], []⟩).ways.reverse := rfl
  rw [hall, hmore, hmeet]
  cases greedy with
  | true => simp [hfold, Search.stop]
  | false => simp [hfold, Search.stop]

theorem firstUnseen_of_pairwise {seen : Places} {ps : List Progress}
    (hseen : ∀ p ∈ ps, seen.contains p.offset = false)
    (h : ps.Pairwise fun p q => p.offset ≠ q.offset) : Progress.firstUnseen seen ps = ps := by
  induction ps generalizing seen with
  | nil => rfl
  | cons p ps ih =>
    obtain ⟨hp, h⟩ := List.pairwise_cons.mp h
    simp only [Progress.firstUnseen, hseen p List.mem_cons_self, Bool.false_eq_true, if_false]
    rw [ih _ h]
    intro q hq
    simp [hseen q (List.mem_cons_of_mem _ hq), hp q hq]

/-- The places after more and more characters of a run are different. -/
theorem pairwise_run (s : CharSet) (limit offset : Nat) (before : Option Char) (rest : List Char) :
    (Cursor.run s limit offset before rest).Pairwise fun c d => c.offset ≠ d.offset := by
  induction limit generalizing offset before rest with
  | zero => simp [Cursor.run]
  | succ limit ih =>
    cases rest with
    | nil => simp [Cursor.run]
    | cons ch rest =>
      simp only [Cursor.run]
      refine List.pairwise_cons.mpr ⟨fun d hd => ?_, ?_⟩
      -- The later places lie behind the character `ch`, which has a size.
      · split at hd
        · rw [← List.drop_zero (l := Cursor.run s limit _ _ rest)] at hd
          obtain ⟨w, -, -, -, hw⟩ := Cursor.exists_of_mem_drop_run hd
          have := ch.utf8Size_pos
          have hle : offset + ch.utf8Size ≤ d.offset := hw.offset_le
          simp only [ne_eq]
          omega
        · cases hd
      · split
        · exact ih _ _ _
        · exact List.Pairwise.nil

/-- A run has no two ways to one place, so that none is dropped. -/
theorem firstWays_run (s : CharSet) (least : Nat) (greatest : Option Nat) (greedy : Bool)
    (c : Cursor) (gs : List (Nat × Span)) :
    Progress.firstWays (((run s least greatest greedy).ways c).map (along gs)) =
      ((run s least greatest greedy).ways c).map (along gs) := by
  have hplaces := (pairwise_run s (greatest.getD c.rest.length) c.offset c.before c.rest).sublist
    (List.drop_sublist least _)
  simp only [ways, List.map_map]
  refine firstUnseen_of_pairwise (by simp) (List.pairwise_map.mpr ?_)
  cases greedy with
  | true => exact List.pairwise_reverse.mpr (hplaces.imp fun h => h.symm)
  | false => exact hplaces

/-- Closing a group leaves the place as it is. -/
theorem firstWays_group (index : Nat) (body : Node) (c : Cursor) (gs : List (Nat × Span)) :
    Progress.firstWays (((group index body).ways c).map (along gs)) =
      (Progress.firstWays ((body.ways c).map (along gs))).map fun p => p.record index c.offset := by
  have hrecord : Progress.firstUnseen .none
      (((body.ways c).map (along gs)).map fun p => p.record index c.offset) =
        (Progress.firstWays ((body.ways c).map (along gs))).map fun p => p.record index c.offset :=
    Progress.firstUnseen_map fun _ => rfl
  rw [← hrecord, List.map_map, ways, List.map_map]
  rfl

/-- Two ways through a node to one place end at one cursor, so that ways on from there lead to the
same places. -/
theorem exists_onward_of_offset_eq {node next : Node} {c : Cursor} {gs : List (Nat × Span)}
    {p q : Progress} (hp : p ∈ (node.ways c).map (along gs)) (hq : q ∈ (node.ways c).map (along gs))
    (ho : p.offset = q.offset) {r : Progress}
    (hr : r ∈ (next.ways q.cursor).map (along q.groups)) :
    ∃ r' ∈ (next.ways p.cursor).map (along p.groups), r'.offset = r.offset := by
  obtain ⟨⟨d, hs⟩, hd, rfl⟩ := List.mem_map.mp hp
  obtain ⟨⟨e, ks⟩, he, rfl⟩ := List.mem_map.mp hq
  obtain ⟨w, hw⟩ := exists_reads_of_mem_ways hd
  obtain ⟨w', hw'⟩ := exists_reads_of_mem_ways he
  obtain rfl := hw.eq_of_offset_eq hw' ho
  obtain ⟨v, hv, rfl⟩ := List.mem_map.mp hr
  exact ⟨along _ v, List.mem_map.mpr ⟨v, hv, rfl⟩, rfl⟩

/-- The ways through two nodes in turn go on from each way through the first one. -/
theorem map_along_ways_seq (first second : Node) (c : Cursor) (gs : List (Nat × Span)) :
    ((seq first second).ways c).map (along gs) =
      ((first.ways c).map (along gs)).flatMap fun p =>
        (second.ways p.cursor).map (along p.groups) := by
  have hcursor : ∀ w : Cursor × List (Nat × Span), (along gs w).cursor = w.1 := fun _ => rfl
  have hgroups : ∀ w : Cursor × List (Nat × Span), (along gs w).groups = w.2 ++ gs := fun _ => rfl
  simp [ways, along_append, List.flatMap_map, List.map_flatMap, Function.comp_def, hcursor, hgroups]

/-- The search goes on from the first way to each place, which is enough. -/
theorem stops_seq_eq_firstWays {first second : Node} {c : Cursor} {gs : List (Nat × Span)}
    (h₁ : first.stops none ⟨c, gs, []⟩ = Progress.firstWays ((first.ways c).map (along gs)))
    (h₂ : ∀ d hs, second.stops none ⟨d, hs, []⟩ =
      Progress.firstWays ((second.ways d).map (along hs))) :
    (seq first second).stops none ⟨c, gs, []⟩ =
      Progress.firstWays (((seq first second).ways c).map (along gs)) := by
  let ps := (first.ways c).map (along gs)
  let next := fun p : Progress => (second.ways p.cursor).map (along p.groups)
  have hnext : ∀ p ∈ Progress.firstWays ps,
      second.stops none p = Progress.firstWays (next p) := by
    intro p hp
    obtain ⟨w, -, rfl⟩ := List.mem_map.mp (Progress.mem_of_mem_firstUnseen hp)
    exact h₂ _ _
  calc (seq first second).stops none ⟨c, gs, []⟩
      = Progress.onward (Progress.firstWays ps) (second.stops none) := by
        rw [← h₁]
        rfl
    _ = Progress.firstWays ((Progress.firstWays ps).flatMap (second.stops none)) :=
        Progress.onward_eq_firstWays fun p hp => by
          rw [hnext p hp, Progress.firstWays_firstWays]
    _ = Progress.firstWays
          ((Progress.firstWays ps).flatMap fun p => Progress.firstWays (next p)) := by
        rw [List.flatMap_congr hnext]
    _ = Progress.firstWays (ps.flatMap next) :=
        Progress.firstUnseen_flatMap
          (fun _ hp _ hq ho _ hr => exists_onward_of_offset_eq hp hq ho hr) (by simp)
    _ = Progress.firstWays (((seq first second).ways c).map (along gs)) := by
        rw [map_along_ways_seq]

/-- Leaving the body out is one more way, which stays where it is. -/
theorem stops_optional_eq_firstWays {body : Node} {c : Cursor} {gs : List (Nat × Span)}
    (h : body.stops none ⟨c, gs, []⟩ = Progress.firstWays ((body.ways c).map (along gs)))
    (greedy : Bool) :
    (times body 0 (some 1) greedy).stops none ⟨c, gs, []⟩ =
      Progress.firstWays (((times body 0 (some 1) greedy).ways c).map (along gs)) := by
  have hall : (times body 0 (some 1) greedy).stops none ⟨c, gs, []⟩ =
      repeated (fun _ => body.stops none) (fun _ => some) some greedy body.mayBeEmpty 0 (some 1)
        ⟨c, gs, []⟩ := rfl
  have hhere := Progress.firstWays_singleton (p := ⟨c, gs, []⟩)
  rw [hall, repeated_optional, h]
  cases greedy with
  | true =>
    rw [if_pos rfl, ← hhere, Progress.firstWays_append_firstWays]
    simp [ways, along]
  | false =>
    rw [if_neg Bool.false_ne_true, ← List.singleton_append, ← hhere,
      Progress.firstWays_append_firstWays]
    simp [ways, along]

/-- **The stops of a node without loops** are the ends of its listed ways, each place once. -/
theorem stops_eq_firstWays {node : Node} (h : node.isLoopFree = true) (c : Cursor)
    (gs : List (Nat × Span)) :
    node.stops none ⟨c, gs, []⟩ = Progress.firstWays ((node.ways c).map (along gs)) := by
  induction node generalizing c gs with
  | empty => simp [stops, ways, along, Progress.firstWays, Progress.firstUnseen]
  | set s =>
    simp only [stops, stopsOfSet, ways]
    cases hrest : c.rest with
    | nil => rfl
    | cons ch rest =>
      by_cases hch : s.mem ch = true
      · simp [hch, along, Progress.firstWays, Progress.firstUnseen, Progress.offset]
      · simp [hch, Progress.firstWays, Progress.firstUnseen]
  | run s least greatest greedy =>
    rw [firstWays_run]
    simp [stops, stopsOfRun, ways, along]
  | look l =>
    simp only [stops, ways]
    split
    · simp [along, Progress.firstWays, Progress.firstUnseen]
    · rfl
  | group index body ih =>
    rw [firstWays_group, ← ih h]
    rfl
  | seq first second ih₁ ih₂ =>
    simp only [isLoopFree, Bool.and_eq_true] at h
    exact stops_seq_eq_firstWays (ih₁ h.1 c gs) (ih₂ h.2)
  | alt first second ih₁ ih₂ =>
    simp only [isLoopFree, Bool.and_eq_true] at h
    simp only [stops, Progress.past?, Option.map_none, ih₁ h.1, ih₂ h.2, ways, List.map_append]
    exact Progress.firstWays_append_firstWays
  | times body least greatest greedy ih =>
    simp only [isLoopFree, Bool.and_eq_true, beq_iff_eq] at h
    obtain ⟨⟨rfl, rfl⟩, h⟩ := h
    exact stops_optional_eq_firstWays (ih h c gs) greedy

/-! ## The first way after which something succeeds -/

variable {α : Type} {k : Cursor → List (Nat × Span) → Option α} {c : Cursor}
  {gs : List (Nat × Span)}

/-- What is found after the first way through a node after which something is. -/
def first (node : Node) (k : Cursor → List (Nat × Span) → Option α) (c : Cursor)
    (gs : List (Nat × Span)) : Option α :=
  (node.ways c).findSome? fun w => k w.1 (w.2 ++ gs)

theorem first_empty : empty.first k c gs = k c gs := by
  cases h : k c gs with
  | none => simp [first, ways, h]
  | some a => simp [first, ways, h]

theorem first_look (l : Look) :
    (look l).first k c gs = if l.holds c.before c.rest.head? then k c gs else none := by
  by_cases hl : l.holds c.before c.rest.head? = true
  · rw [if_pos hl, ← first_empty (k := k)]
    simp [first, ways, hl]
  · simp [first, ways, hl]

theorem first_set (s : CharSet) :
    (set s).first k c gs =
      match c.rest with
      | [] => none
      | ch :: rest => if s.mem ch then k (.next c.offset ch rest) gs else none := by
  cases hrest : c.rest with
  | nil => simp [first, ways, hrest]
  | cons ch rest =>
    by_cases hch : s.mem ch = true
    · simp only [hch, if_true]
      rw [← first_empty (k := k)]
      simp [first, ways, hrest, hch]
    · simp [first, ways, hrest, hch]

theorem first_group (index : Nat) (body : Node) :
    (group index body).first k c gs =
      body.first (fun d hs => k d ((index, ⟨c.offset, d.offset⟩) :: hs)) c gs := by
  simp [first, ways, List.findSome?_map, Function.comp_def]

theorem first_seq (a b : Node) : (seq a b).first k c gs = a.first (b.first k) c gs := by
  have hflat : ∀ ws : List (Cursor × List (Nat × Span)),
      (ws.flatMap fun w => (b.ways w.1).map fun w' => (w'.1, w'.2 ++ w.2)).findSome?
          (fun w => k w.1 (w.2 ++ gs)) =
        ws.findSome? fun w => b.first k w.1 (w.2 ++ gs) := by
    intro ws
    induction ws with
    | nil => rfl
    | cons w ws ih =>
      have hw : ((b.ways w.1).map fun w' => (w'.1, w'.2 ++ w.2)).findSome?
          (fun w => k w.1 (w.2 ++ gs)) = b.first k w.1 (w.2 ++ gs) := by
        simp [first, List.findSome?_map, Function.comp_def]
      -- The ways that start with `w` come first.
      rw [List.flatMap_cons, List.findSome?_append, ih, hw, List.findSome?_cons]
      cases b.first k w.1 (w.2 ++ gs) with
      | none => rfl
      | some a => rfl
  exact hflat (a.ways c)

theorem first_alt (a b : Node) :
    (alt a b).first k c gs = (a.first k c gs).or (b.first k c gs) := by
  simp [first, ways, List.findSome?_append]

theorem first_optional (body : Node) (least : Nat) (greatest : Option Nat) :
    (times body least greatest true).first k c gs = (body.first k c gs).or (k c gs) := by
  rw [← first_empty (k := k), ← first_alt]
  rfl

/-- A run takes a character if it can and has to. -/
theorem first_run_succ (s : CharSet) (least n : Nat) :
    (run s (least + 1) (some (n + 1)) true).first k c gs =
      match c.rest with
      | [] => none
      | ch :: rest =>
        if s.mem ch then (run s least (some n) true).first k (.next c.offset ch rest) gs
        else none := by
  cases hrest : c.rest with
  | nil => simp [first, ways, hrest, Cursor.run]
  | cons ch rest =>
    by_cases hch : s.mem ch = true
    · simp [first, ways, hrest, Cursor.run, hch, Cursor.next]
    · simp [first, ways, hrest, Cursor.run, hch]

/-- A run takes one more character if it can, and goes back on it if nothing comes of that. -/
theorem first_run_zero_succ (s : CharSet) (n : Nat) :
    (run s 0 (some (n + 1)) true).first k c gs =
      match c.rest with
      | [] => k c gs
      | ch :: rest =>
        if s.mem ch then ((run s 0 (some n) true).first k (.next c.offset ch rest) gs).or (k c gs)
        else k c gs := by
  obtain ⟨offset, before, rest⟩ := c
  rw [← first_empty (k := k) (c := ⟨offset, before, rest⟩)]
  cases rest with
  | nil => simp [first, ways, Cursor.run]
  | cons ch rest =>
    by_cases hch : s.mem ch = true
    · simp [first, ways, Cursor.run, hch, Cursor.next]
    · simp [first, ways, Cursor.run, hch]

theorem first_run_zero (s : CharSet) : (run s 0 (some 0) true).first k c gs = k c gs := by
  rw [← first_empty (k := k)]
  simp [first, ways, Cursor.run]

end Node

/-- The preferred match is made by the first of the listed ways. -/
theorem matchAt?_eq_head? {node : Node} (h : node.isLoopFree = true) (c : Cursor) :
    matchAt? node c = (node.ways c).head?.map fun w => ⟨⟨c.offset, w.1.offset⟩, w.2⟩ := by
  rw [matchAt?, Node.stops_eq_firstWays h, Progress.head?_firstWays, List.head?_map,
    Option.map_map]
  simp [Function.comp_def, Node.along, Progress.offset]

/-- **The preferred match** at a place is made by the first way. -/
theorem matchAt?_eq_first {node : Node} (h : node.isLoopFree = true) (c : Cursor) :
    matchAt? node c = node.first (fun d gs => some ⟨⟨c.offset, d.offset⟩, gs⟩) c [] := by
  rw [matchAt?_eq_head? h]
  cases hways : node.ways c with
  | nil => simp [Node.first, hways]
  | cons w ws => simp [Node.first, hways]

end Pattern

end Timephrase
