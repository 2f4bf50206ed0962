import Timephrase.Proofs.Pattern.Place

/-!
# Ways through a pattern

A way leads through a node from one place of a text to another and records the groups that it
closes.  What the ways are is said by recursion on the node, without regard to preference and
search.  Matching stops only where a way leads.

## Main definitions

* `Copies step n`: `n` steps one after another
* `Node.Way node c d gs`: a way through `node` from `c` to `d` records the groups `gs`

## Main results

* `Node.way_of_mem_stops`: each stop of a node is the end of a way
* `Node.Way.exists_reads`: a way reads the characters between its ends
* `way_of_matchAt?`: a match is a way through the whole pattern
-/

namespace Timephrase.Pattern

/-- So many steps one after another, with the groups that they record, the latest first. -/
def Copies (step : Cursor → Cursor → List (Nat × Span) → Prop) :
    Nat → Cursor → Cursor → List (Nat × Span) → Prop
  | 0, c, d, gs => d = c ∧ gs = []
  | n + 1, c, d, gs => ∃ e hs ks, step c e hs ∧ Copies step n e d ks ∧ gs = ks ++ hs

/-- A way through a node from `c` to `d` that records the groups `gs`, the latest first.  A
repetition whose bounds are the wrong way round is taken its least number of times. -/
def Node.Way : Node → Cursor → Cursor → List (Nat × Span) → Prop
  | empty, c, d, gs => d = c ∧ gs = []
  | set s, c, d, gs => ∃ ch, s.mem ch = true ∧ c.Reads [ch] d ∧ gs = []
  | run s least greatest _, c, d, gs =>
    ∃ w, (∀ ch ∈ w, s.mem ch = true) ∧ least ≤ w.length ∧
      (∀ n, greatest = some n → w.length ≤ max least n) ∧ c.Reads w d ∧ gs = []
  | look l, c, d, gs => l.holds c.before c.rest.head? = true ∧ d = c ∧ gs = []
  | group index body, c, d, gs =>
    ∃ hs, body.Way c d hs ∧ gs = (index, ⟨c.offset, d.offset⟩) :: hs
  | seq first second, c, d, gs =>
    ∃ e hs ks, first.Way c e hs ∧ second.Way e d ks ∧ gs = ks ++ hs
  | alt first second, c, d, gs => first.Way c d gs ∨ second.Way c d gs
  | times body least greatest _, c, d, gs =>
    ∃ n, least ≤ n ∧ (∀ m, greatest = some m → n ≤ max least m) ∧ Copies body.Way n c d gs

/-! ## What a way reads -/

/-- If each step reads characters, so do several. -/
theorem Copies.exists_reads {step : Cursor → Cursor → List (Nat × Span) → Prop}
    (hstep : ∀ c d gs, step c d gs → ∃ w, c.Reads w d) {n : Nat} {c d : Cursor}
    {gs : List (Nat × Span)} (h : Copies step n c d gs) : ∃ w, c.Reads w d := by
  induction n generalizing c gs with
  | zero =>
    obtain ⟨rfl, -⟩ := h
    exact ⟨[], .refl _⟩
  | succ n ih =>
    obtain ⟨e, hs, ks, h₁, h₂, -⟩ := h
    obtain ⟨w, hw⟩ := hstep c e hs h₁
    obtain ⟨w', hw'⟩ := ih h₂
    exact ⟨w ++ w', hw.trans hw'⟩

/-- **A way reads the characters between its ends.** -/
theorem Node.Way.exists_reads {node : Node} {c d : Cursor} {gs : List (Nat × Span)}
    (h : node.Way c d gs) : ∃ w, c.Reads w d := by
  induction node generalizing c d gs with
  | empty =>
    obtain ⟨rfl, -⟩ := h
    exact ⟨[], .refl _⟩
  | set s =>
    obtain ⟨ch, -, hw, -⟩ := h
    exact ⟨[ch], hw⟩
  | run s least greatest greedy =>
    obtain ⟨w, -, -, -, hw, -⟩ := h
    exact ⟨w, hw⟩
  | look l =>
    obtain ⟨-, rfl, -⟩ := h
    exact ⟨[], .refl _⟩
  | group index body ih =>
    obtain ⟨hs, h, -⟩ := h
    exact ih h
  | seq first second ih₁ ih₂ =>
    obtain ⟨e, hs, ks, h₁, h₂, -⟩ := h
    obtain ⟨w, hw⟩ := ih₁ h₁
    obtain ⟨w', hw'⟩ := ih₂ h₂
    exact ⟨w ++ w', hw.trans hw'⟩
  | alt first second ih₁ ih₂ =>
    rcases h with h | h
    · exact ih₁ h
    · exact ih₂ h
  | times body least greatest greedy ih =>
    obtain ⟨n, -, -, h⟩ := h
    exact h.exists_reads fun _ _ _ => ih

theorem Node.Way.offset_le {node : Node} {c d : Cursor} {gs : List (Nat × Span)}
    (h : node.Way c d gs) : c.offset ≤ d.offset := by
  obtain ⟨w, hw⟩ := h.exists_reads
  exact hw.offset_le

/-- So many characters of a set, one after another, are a run. -/
theorem Copies.exists_run {s : CharSet} {n : Nat} {c d : Cursor} {gs : List (Nat × Span)}
    (h : Copies (Node.set s).Way n c d gs) :
    ∃ w, (∀ ch ∈ w, s.mem ch = true) ∧ w.length = n ∧ c.Reads w d ∧ gs = [] := by
  induction n generalizing c gs with
  | zero =>
    obtain ⟨rfl, rfl⟩ := h
    exact ⟨[], by simp, rfl, .refl _, rfl⟩
  | succ n ih =>
    obtain ⟨e, hs, ks, ⟨ch, hch, hw, rfl⟩, h, rfl⟩ := h
    obtain ⟨w, hmem, hlen, hw', rfl⟩ := ih h
    refine ⟨ch :: w, ?_, by simp [hlen], hw.trans hw', rfl⟩
    rintro ch' (_ | ⟨_, h⟩)
    · exact hch
    · exact hmem ch' h

/-! ## Progress along steps -/

namespace Progress

/-- `q` is got from `p` by steps, whose groups come before those that `p` has. -/
def Gains (p : Progress) (step : Cursor → Cursor → List (Nat × Span) → Prop) (q : Progress) :
    Prop :=
  ∃ gs, step p.cursor q.cursor gs ∧ q.groups = gs ++ p.groups

variable {step : Cursor → Cursor → List (Nat × Span) → Prop} {p q r : Progress} {m n : Nat}

theorem Gains.zero (hc : q.cursor = p.cursor) (hg : q.groups = p.groups) :
    p.Gains (Copies step 0) q :=
  ⟨[], ⟨hc, rfl⟩, by simp [hg]⟩

theorem Gains.succ (h : p.Gains step q) (h' : q.Gains (Copies step n) r) :
    p.Gains (Copies step (n + 1)) r := by
  obtain ⟨gs, hgs, hq⟩ := h
  obtain ⟨hs, hhs, hr⟩ := h'
  exact ⟨hs ++ gs, ⟨_, gs, hs, hgs, hhs, rfl⟩, by simp [hr, hq]⟩

theorem Gains.add (h : p.Gains (Copies step m) q) (h' : q.Gains (Copies step n) r) :
    p.Gains (Copies step (m + n)) r := by
  induction m generalizing p with
  | zero =>
    obtain ⟨gs, ⟨hc, rfl⟩, hg⟩ := h
    obtain ⟨hs, hhs, hr⟩ := h'
    exact ⟨hs, by simpa [hc] using hhs, by simpa [hg] using hr⟩
  | succ m ih =>
    obtain ⟨gs, ⟨e, hs, ks, h₁, h₂, rfl⟩, hg⟩ := h
    rw [Nat.add_right_comm]
    exact Gains.succ (q := ⟨e, hs ++ p.groups, []⟩) ⟨hs, h₁, rfl⟩ (ih ⟨ks, h₂, by simp [hg]⟩)

theorem past?_eq_some {fork : Option Point} (h : p.past? fork = some q) :
    q.cursor = p.cursor ∧ q.groups = p.groups := by
  cases fork with
  | none =>
    cases h
    exact ⟨rfl, rfl⟩
  | some fork =>
    simp only [past?] at h
    split at h
    · cases h
    · cases h
      exact ⟨rfl, rfl⟩

theorem mem_of_mem_firstUnseen {seen : Places} {ps : List Progress} (h : p ∈ firstUnseen seen ps) :
    p ∈ ps := by
  induction ps generalizing seen with
  | nil => exact h
  | cons q ps ih =>
    simp only [firstUnseen] at h
    split at h
    · exact List.mem_cons_of_mem _ (ih h)
    · rcases List.mem_cons.mp h with rfl | h
      · exact List.mem_cons_self
      · exact List.mem_cons_of_mem _ (ih h)

theorem exists_of_mem_onward {ps : List Progress} {f : Progress → List Progress}
    (h : q ∈ onward ps f) : ∃ p ∈ ps, q ∈ f p := by
  match ps, h with
  | [p], h => exact ⟨p, List.mem_singleton_self p, h⟩
  | p :: p' :: ps, h => exact List.mem_flatMap.mp (mem_of_mem_firstUnseen h)

theorem mem_of_mem_prefer {greedy : Bool} {more : List Progress} (h : q ∈ prefer greedy more p) :
    q ∈ more ∨ q = p := by
  have h := mem_of_mem_firstUnseen h
  cases greedy with
  | false => exact (List.mem_cons.mp h).symm
  | true => simpa using h

end Progress

/-! ## Repetition -/

namespace Search

theorem ways_meet? {s s' : Search} {fork offset : Nat} (h : s.meet? fork offset = some s') :
    s'.ways = s.ways := by
  simp only [meet?] at h
  split at h
  · cases h
  · cases h
    rfl

/-- What holds of the ways that each of some searches adds holds of those that all of them add. -/
theorem mem_ways_foldl {P : Progress → Prop} {search : Search → Progress → Search}
    {qs : List Progress}
    (hsearch : ∀ q ∈ qs, ∀ s, ∀ w ∈ (search s q).ways, w ∈ s.ways ∨ P w) {s : Search}
    {w : Progress} (hw : w ∈ (qs.foldl search s).ways) : w ∈ s.ways ∨ P w := by
  induction qs generalizing s with
  | nil => exact Or.inl hw
  | cons q qs ih =>
    rcases ih (fun q' hq' => hsearch q' (List.mem_cons_of_mem _ hq')) hw with hw | hw
    · exact hsearch q List.mem_cons_self s w hw
    · exact Or.inr hw

theorem exists_of_mem_collect {P : Progress → Progress → Prop}
    {search : Progress → Search → Search} {ps : List Progress}
    (hsearch : ∀ p ∈ ps, ∀ s, ∀ w ∈ (search p s).ways, w ∈ s.ways ∨ P p w) {w : Progress}
    (hw : w ∈ collect search ps) : ∃ p ∈ ps, P p w := by
  have hw := List.mem_reverse.mp (Progress.mem_of_mem_firstUnseen hw)
  have hall : ∀ p ∈ ps, ∀ s, ∀ w ∈ (search p s).ways, w ∈ s.ways ∨ ∃ p ∈ ps, P p w :=
    fun p hp s w hw => (hsearch p hp s w hw).imp_right fun h => ⟨p, hp, h⟩
  simpa using mem_ways_foldl hall hw

end Search

section Repetition

variable {body : Nat → Progress → List Progress} {before : Nat → Progress → Option Progress}
  {after : Progress → Option Progress} {greedy : Bool}
  {step : Cursor → Cursor → List (Nat × Span) → Prop}

theorem gains_of_mem_exactly (hbody : ∀ copy p, ∀ q ∈ body copy p, p.Gains step q)
    {copy n : Nat} {ps : List Progress} {q : Progress} (h : q ∈ exactly body copy n ps) :
    ∃ p ∈ ps, p.Gains (Copies step n) q := by
  induction n generalizing copy ps with
  | zero => exact ⟨q, h, .zero rfl rfl⟩
  | succ n ih =>
    obtain ⟨p', hp', hq⟩ := ih h
    obtain ⟨p, hp, hp'⟩ := Progress.exists_of_mem_onward hp'
    exact ⟨p, hp, (hbody copy p p' hp').succ hq⟩

/-- One turn of a search at a fork: either it leaves here, or it does a copy and goes on. -/
theorem mem_ways_turn {P : Progress → Prop} (more : Search → Search) {s s' : Search}
    {p w : Progress} (hs : s'.ways = s.ways) (hp : P p)
    (hmore : ∀ s, ∀ w ∈ (more s).ways, w ∈ s.ways ∨ P w)
    (hw : w ∈ (if greedy then (more s').stop p else more (s'.stop p)).ways) :
    w ∈ s.ways ∨ P w := by
  cases greedy with
  | true =>
    rcases List.mem_cons.mp hw with rfl | hw
    · exact Or.inr hp
    · exact hs ▸ hmore s' w hw
  | false =>
    rcases hmore _ w hw with hw | hw
    · rcases List.mem_cons.mp hw with rfl | hw
      · exact Or.inr hp
      · exact Or.inl (hs ▸ hw)
    · exact Or.inr hw

theorem gains_of_mem_atMost (hbody : ∀ copy p, ∀ q ∈ body copy p, p.Gains step q)
    (hbefore : ∀ copy p q, before copy p = some q → q.cursor = p.cursor ∧ q.groups = p.groups)
    {copy fork n : Nat} {p w : Progress} {s : Search}
    (hw : w ∈ (atMost body before greedy copy fork n p s).ways) :
    w ∈ s.ways ∨ ∃ k ≤ n, p.Gains (Copies step k) w := by
  -- On the copies that may still be done; the search goes on from other progress and with other
  -- ways found.
  induction n generalizing copy fork p s w with
  | zero =>
    rcases List.mem_cons.mp hw with rfl | hw
    · exact Or.inr ⟨0, Nat.le_refl _, .zero rfl rfl⟩
    · exact Or.inl hw
  | succ n ih =>
    simp only [atMost] at hw
    split at hw
    · exact Or.inl hw
    · next p' hp' =>
      obtain ⟨hc, hg⟩ := hbefore copy p p' hp'
      split at hw
      · exact Or.inl hw
      · next s' hs' =>
        -- The fork changes the point alone, so that the steps from `p'` are steps from `p`.
        refine mem_ways_turn (P := fun w => ∃ k ≤ n + 1, p.Gains (Copies step k) w)
          (fun s => (body copy p').foldl (fun s q => atMost body before greedy _ _ n q s) s)
          (Search.ways_meet? hs') ⟨0, Nat.zero_le _, .zero hc hg⟩ (fun s w hw => ?_) hw
        refine Search.mem_ways_foldl (P := fun w => ∃ k ≤ n + 1, p.Gains (Copies step k) w)
          (fun q hq s w hw => ?_) hw
        rcases ih hw with hw | ⟨k, hk, hw⟩
        · exact Or.inl hw
        · obtain ⟨gs, hgs, hq⟩ := hbody copy p' q hq
          exact Or.inr ⟨k + 1, by omega, Progress.Gains.succ ⟨gs, hc ▸ hgs, hg ▸ hq⟩ hw⟩

theorem gains_of_mem_anyTimes (hbody : ∀ copy p, ∀ q ∈ body copy p, p.Gains step q)
    {atFork : Progress → Option Progress}
    (hfork : ∀ p q, atFork p = some q → q.cursor = p.cursor ∧ q.groups = p.groups)
    {copy fuel : Nat} {p w : Progress} {s : Search}
    (hw : w ∈ (anyTimes body greedy copy atFork fuel p s).ways) :
    w ∈ s.ways ∨ ∃ k, p.Gains (Copies step k) w := by
  -- Without fuel nothing is found, so that the fuel need not suffice here.
  induction fuel generalizing p s w with
  | zero => exact Or.inl hw
  | succ fuel ih =>
    simp only [anyTimes] at hw
    split at hw
    · exact Or.inl hw
    · next p' hp' =>
      obtain ⟨hc, hg⟩ := hfork p p' hp'
      split at hw
      · exact Or.inl hw
      · next s' hs' =>
        refine mem_ways_turn (P := fun w => ∃ k, p.Gains (Copies step k) w)
          (fun s => (body copy p').foldl (fun s q => anyTimes body greedy copy atFork fuel q s) s)
          (Search.ways_meet? hs') ⟨0, .zero hc hg⟩ (fun s w hw => ?_) hw
        refine Search.mem_ways_foldl (P := fun w => ∃ k, p.Gains (Copies step k) w)
          (fun q hq s w hw => ?_) hw
        rcases ih hw with hw | ⟨k, hw⟩
        · exact Or.inl hw
        · obtain ⟨gs, hgs, hq⟩ := hbody copy p' q hq
          exact Or.inr ⟨k + 1, Progress.Gains.succ ⟨gs, hc ▸ hgs, hg ▸ hq⟩ hw⟩

theorem gains_of_mem_atLeastOnce (hbody : ∀ copy p, ∀ q ∈ body copy p, p.Gains step q)
    (hafter : ∀ p q, after p = some q → q.cursor = p.cursor ∧ q.groups = p.groups)
    {copy : Nat} {ps : List Progress} {w : Progress}
    (hw : w ∈ atLeastOnce body after greedy copy ps) :
    ∃ p ∈ ps, ∃ k, p.Gains (Copies step (k + 1)) w := by
  -- One copy comes first, and the search starts at its stops.
  obtain ⟨q, hq, k, hw⟩ := Search.exists_of_mem_collect
    (P := fun q w => ∃ k, q.Gains (Copies step k) w)
    (fun q _ s w hw => gains_of_mem_anyTimes hbody hafter hw) hw
  obtain ⟨p, hp, hq⟩ := Progress.exists_of_mem_onward hq
  exact ⟨p, hp, k, (hbody copy p q hq).succ hw⟩

/-- **The stops of a repetition** are reached by a number of steps that it allows. -/
theorem gains_of_mem_repeated (hbody : ∀ copy p, ∀ q ∈ body copy p, p.Gains step q)
    (hbefore : ∀ copy p q, before copy p = some q → q.cursor = p.cursor ∧ q.groups = p.groups)
    (hafter : ∀ p q, after p = some q → q.cursor = p.cursor ∧ q.groups = p.groups)
    {mayBeEmpty : Bool} {least : Nat} {greatest : Option Nat} {p w : Progress}
    (hw : w ∈ repeated body before after greedy mayBeEmpty least greatest p) :
    ∃ n, least ≤ n ∧ (∀ m, greatest = some m → n ≤ max least m) ∧ p.Gains (Copies step n) w := by
  have hfirst : ∀ copy n, ∀ q ∈ exactly body copy n [p], p.Gains (Copies step n) q := by
    intro copy n q hq
    obtain ⟨p', hp', hq'⟩ := gains_of_mem_exactly hbody hq
    exact List.mem_singleton.mp hp' ▸ hq'
  -- The least number of copies is done first in any case; the bounds say which search does the
  -- rest.
  cases greatest with
  | some m =>
    simp only [repeated] at hw
    split at hw
    · exact ⟨least, Nat.le_refl _, fun _ _ => Nat.le_max_left _ _, hfirst 0 least w hw⟩
    · obtain ⟨q, hq, k, hk, hk'⟩ := Search.exists_of_mem_collect
        (P := fun q w => ∃ k ≤ m - least, q.Gains (Copies step k) w)
        (fun q _ s w hw => gains_of_mem_atMost hbody hbefore hw) hw
      refine ⟨least + k, Nat.le_add_right _ _, ?_, (hfirst 0 least q hq).add hk'⟩
      rintro m' ⟨⟩
      omega
  | none =>
    -- Without a least number a body that may be empty is done at least once or not at all.
    cases least with
    | zero =>
      simp only [repeated] at hw
      split at hw
      · split at hw
        · cases hw
        · next p' hp' =>
          obtain ⟨hc, hg⟩ := hbefore 0 p p' hp'
          rcases Progress.mem_of_mem_prefer hw with hw | rfl
          · obtain ⟨q, hq, k, gs, hgs, hk⟩ := gains_of_mem_atLeastOnce hbody hafter hw
            obtain rfl := List.mem_singleton.mp hq
            exact ⟨k + 1, Nat.zero_le _, by simp, gs, hc ▸ hgs, hg ▸ hk⟩
          · exact ⟨0, Nat.le_refl _, by simp, .zero hc hg⟩
      · obtain ⟨q, hq, k, hk⟩ := Search.exists_of_mem_collect
          (P := fun q w => ∃ k, q.Gains (Copies step k) w)
          (fun q _ s w hw => gains_of_mem_anyTimes hbody (hbefore 0) hw) hw
        exact ⟨k, Nat.zero_le _, by simp, List.mem_singleton.mp hq ▸ hk⟩
    | succ least =>
      obtain ⟨q, hq, k, hk⟩ := gains_of_mem_atLeastOnce hbody hafter hw
      exact ⟨least + (k + 1), by omega, by simp, (hfirst 0 least q hq).add hk⟩

end Repetition

/-! ## Stops are the ends of ways -/

theorem Cursor.exists_of_mem_drop_run {s : CharSet} {limit least offset : Nat}
    {before : Option Char} {rest : List Char} {d : Cursor}
    (h : d ∈ (Cursor.run s limit offset before rest).drop least) :
    ∃ w, (∀ ch ∈ w, s.mem ch = true) ∧ least ≤ w.length ∧ w.length ≤ limit ∧
      (⟨offset, before, rest⟩ : Cursor).Reads w d := by
  induction limit generalizing least offset before rest with
  | zero =>
    have hd : d = ⟨offset, before, rest⟩ := List.mem_singleton.mp (List.mem_of_mem_drop h)
    cases least with
    | zero => exact ⟨[], by simp, Nat.le_refl _, Nat.le_refl _, hd ▸ .refl _⟩
    | succ least => simp [run] at h
  | succ limit ih =>
    cases rest with
    | nil =>
      have hd : d = ⟨offset, before, []⟩ := List.mem_singleton.mp (List.mem_of_mem_drop h)
      cases least with
      | zero => exact ⟨[], by simp, Nat.le_refl _, Nat.zero_le _, hd ▸ .refl _⟩
      | succ least => simp [run] at h
    | cons ch rest =>
      -- The first place of the run is where it starts; the later ones are a run from the next
      -- place.
      have hlater : ∀ least', d ∈ (if s.mem ch then
            Cursor.run s limit (offset + ch.utf8Size) (some ch) rest else []).drop least' →
          ∃ w, (∀ ch ∈ w, s.mem ch = true) ∧ least' + 1 ≤ w.length ∧ w.length ≤ limit + 1 ∧
            (⟨offset, before, ch :: rest⟩ : Cursor).Reads w d := by
        intro least' hd
        split at hd
        · next hch =>
          obtain ⟨w, hw, h₁, h₂, hr⟩ := ih hd
          refine ⟨ch :: w, ?_, by simpa using h₁, by simpa using h₂,
            Reads.cons_iff.mpr ⟨rest, rfl, hr⟩⟩
          rintro ch' (_ | ⟨_, h⟩)
          · exact hch
          · exact hw ch' h
        · simp at hd
      cases least with
      | zero =>
        rcases List.mem_cons.mp h with rfl | h
        · exact ⟨[], by simp, Nat.le_refl _, Nat.zero_le _, .refl _⟩
        · obtain ⟨w, hw, -, h₂, hr⟩ := hlater 0 h
          exact ⟨w, hw, Nat.zero_le _, h₂, hr⟩
      | succ least => exact hlater least h

namespace Node

theorem gains_of_mem_stopsOfSet {s : CharSet} {p q : Progress} (h : q ∈ stopsOfSet s p) :
    p.Gains (set s).Way q := by
  simp only [stopsOfSet] at h
  split at h
  · cases h
  · next ch rest hrest =>
    split at h
    · next hch =>
      obtain rfl := List.mem_singleton.mp h
      exact ⟨[], ⟨ch, hch, Cursor.Reads.single hrest, rfl⟩, rfl⟩
    · cases h

theorem gains_of_mem_stopsOfRun {s : CharSet} {least : Nat} {greatest : Option Nat}
    {greedy : Bool} {p q : Progress} (h : q ∈ stopsOfRun s least greatest greedy p) :
    p.Gains (run s least greatest greedy).Way q := by
  simp only [stopsOfRun, List.mem_map] at h
  obtain ⟨d, hd, rfl⟩ := h
  -- Greed turns the order of the places round and leaves none out.
  have hd : d ∈ (Cursor.run s (greatest.getD p.cursor.rest.length) p.cursor.offset
      p.cursor.before p.cursor.rest).drop least := by
    cases greedy with
    | true => exact List.mem_reverse.mp hd
    | false => exact hd
  obtain ⟨w, hw, h₁, h₂, hr⟩ := Cursor.exists_of_mem_drop_run hd
  refine ⟨[], ⟨w, hw, h₁, ?_, hr, rfl⟩, rfl⟩
  rintro n rfl
  exact Nat.le_trans h₂ (Nat.le_max_right _ _)

/-- **Each stop of a node is the end of a way through it**, and the groups recorded on the way have
been put before those that there were. -/
theorem way_of_mem_stops {point : Option Point} {node : Node} {p q : Progress}
    (h : q ∈ stops point node p) : p.Gains node.Way q := by
  induction node generalizing point p q with
  | empty =>
    obtain rfl := List.mem_singleton.mp (by simpa [stops] using h)
    exact ⟨[], ⟨rfl, rfl⟩, rfl⟩
  | set s => exact gains_of_mem_stopsOfSet (by simpa [stops] using h)
  | run s least greatest greedy =>
    cases point with
    | none => exact gains_of_mem_stopsOfRun (by simpa [stops] using h)
    | some point =>
      simp only [stops] at h
      obtain ⟨n, h₁, h₂, gs, hgs, hq⟩ := gains_of_mem_repeated
        (fun _ _ _ => gains_of_mem_stopsOfSet) (fun _ _ _ => Progress.past?_eq_some)
        (fun _ _ => Progress.past?_eq_some) h
      -- Behind a fork a run is searched as a repetition of its set.
      obtain ⟨w, hw, rfl, hr, rfl⟩ := hgs.exists_run
      exact ⟨[], ⟨w, hw, h₁, h₂, hr, rfl⟩, hq⟩
  | look l =>
    simp only [stops] at h
    split at h
    · next hl =>
      obtain rfl := List.mem_singleton.mp h
      exact ⟨[], ⟨hl, rfl, rfl⟩, rfl⟩
    · cases h
  | group index body ih =>
    simp only [stops, List.mem_map] at h
    obtain ⟨q', hq', rfl⟩ := h
    obtain ⟨gs, hgs, hq⟩ := ih hq'
    refine ⟨(index, ⟨p.offset, q'.offset⟩) :: gs, ⟨gs, hgs, rfl⟩, ?_⟩
    simp [Progress.record, hq]
  | seq first second ih₁ ih₂ =>
    simp only [stops] at h
    obtain ⟨r, hr, hq⟩ := Progress.exists_of_mem_onward h
    obtain ⟨gs, hgs, hrg⟩ := ih₁ hr
    obtain ⟨hs, hhs, hqg⟩ := ih₂ hq
    exact ⟨hs ++ gs, ⟨r.cursor, gs, hs, hgs, hhs, rfl⟩, by simp [hqg, hrg]⟩
  | alt first second ih₁ ih₂ =>
    simp only [stops] at h
    split at h
    · cases h
    · next p' hp' =>
      obtain ⟨hc, hg⟩ := Progress.past?_eq_some hp'
      rcases List.mem_append.mp (Progress.mem_of_mem_firstUnseen h) with h | h
      · obtain ⟨gs, hgs, hq⟩ := ih₁ h
        exact ⟨gs, Or.inl (hc ▸ hgs), hg ▸ hq⟩
      · obtain ⟨gs, hgs, hq⟩ := ih₂ h
        exact ⟨gs, Or.inr (hc ▸ hgs), hg ▸ hq⟩
  | times body least greatest greedy ih =>
    simp only [stops] at h
    obtain ⟨n, h₁, h₂, gs, hgs, hq⟩ := gains_of_mem_repeated
      (fun _ _ _ hq => ih hq) (fun _ _ _ => Progress.past?_eq_some)
      (fun _ _ => Progress.past?_eq_some) h
    refine ⟨gs, ⟨n, h₁, h₂, ?_⟩, ?_⟩
    -- A step of the body is a way through it whatever point it starts at.
    · split at hgs <;> exact hgs
    · split at hq <;> exact hq

end Node

/-- **A match is a way through the whole pattern** from the place where it starts. -/
theorem way_of_matchAt? {node : Node} {c : Cursor} {m : Match} (h : matchAt? node c = some m) :
    ∃ d, node.Way c d m.groups ∧ m.span = ⟨c.offset, d.offset⟩ := by
  simp only [matchAt?, Option.map_eq_some_iff] at h
  obtain ⟨q, hq, rfl⟩ := h
  obtain ⟨gs, hgs, hg⟩ := Node.way_of_mem_stops (List.mem_of_mem_head? hq)
  refine ⟨q.cursor, ?_, rfl⟩
  simpa [hg] using hgs

end Timephrase.Pattern
