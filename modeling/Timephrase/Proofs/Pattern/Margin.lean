import Timephrase.Proofs.Pattern.Edge
import Timephrase.Proofs.Pattern.Order
import Timephrase.Proofs.Text.Margin

/-!
# Matches in a text with margins

A pattern that looks at nothing but the edges of words, and opens and closes with one, finds in a
text with blanks around it what it finds in the text, further on.  No match starts or stops among the
blanks, and those ways through the pattern that do not run into them are the ways in the text.

## Main definitions

* `Span.shift`, `Match.shift`: a span and a match further on
* `Cursor.within`: the place of a text in the text with margins
* `Cursor.IsBlank`: a place among blanks
* `Node.KeepsWays`: the ways that do not run into the margins are those in the text
* `Node.HasEdges`: a node looks at nothing but the edges of words, and starts and ends with one

## Main results

* `Node.keepsWays_of_looksAtWords`: the ways that do not run into the margins
* `Pattern.matchAt?_of_isBlank`: no match starts among blanks
* `Pattern.matchAt?_within`: the match at a place
* `Pattern.findAll_around`: the matches in a text with margins
-/

namespace Timephrase

/-- A span `n` positions further on. -/
def Span.shift (n : Nat) (s : Span) : Span := ⟨n + s.start, n + s.stop⟩

/-- Whether a condition on a place is one on the edges of words. -/
def Look.isOfWords : Look → Bool
  | word _ _ => true
  | _ => false

/-- Whether a node looks at nothing but the edges of words. -/
def Pattern.Node.looksAtWords : Pattern.Node → Bool
  | look l => l.isOfWords
  | group _ body => body.looksAtWords
  | seq first second => first.looksAtWords && second.looksAtWords
  | alt first second => first.looksAtWords && second.looksAtWords
  | times body _ _ _ => body.looksAtWords
  | _ => true

namespace Pattern

/-- Groups with their spans `n` positions further on. -/
def shiftGroups (n : Nat) (gs : List (Nat × Span)) : List (Nat × Span) :=
  gs.map fun g => (g.1, g.2.shift n)

/-- A match `n` positions further on. -/
def Match.shift (n : Nat) (m : Match) : Match := ⟨m.span.shift n, shiftGroups n m.groups⟩

theorem Match.group?_shift (n index : Nat) (found : Match) :
    (found.shift n).group? index = (found.group? index).map (Span.shift n) := by
  have hlookup : ∀ gs : List (Nat × Span),
      (shiftGroups n gs).lookup index = (gs.lookup index).map (Span.shift n) := by
    intro gs
    induction gs with
    | nil => rfl
    | cons g gs ih =>
      rw [shiftGroups, List.map_cons, List.lookup_cons, List.lookup_cons]
      split
      · rfl
      · exact ih
  exact hlookup found.groups

variable (m : Margins)

/-! ## Places -/

namespace Cursor

/-- The place of a text in the text with margins. -/
def within (m : Margins) (c : Cursor) : Cursor :=
  ⟨m.width + c.offset, c.before.or m.front.getLast?, c.rest ++ m.back⟩

theorem within_next (offset : Nat) (ch : Char) (rest : List Char) :
    (next offset ch rest).within m = next (m.width + offset) ch (rest ++ m.back) := by
  rw [within, next, next, ← Nat.add_assoc]
  rfl

/-- Whether a place does not lie behind the start of the second margin. -/
def isInside (m : Margins) (c : Cursor) : Bool := m.back.length ≤ c.rest.length

theorem isInside_within (c : Cursor) : (c.within m).isInside m = true := by
  simp [isInside, within]

/-- Reading leads out of the text and never back. -/
theorem Reads.isInside {c d : Cursor} {w : List Char} (h : c.Reads w d)
    (hd : d.isInside m = true) : c.isInside m = true := by
  simp only [Cursor.isInside, decide_eq_true_eq] at hd ⊢
  rw [h.rest_eq, List.length_append]
  omega

/-- At the end of a text a run may go on in the margin, to places with less of it left. -/
theorem run_at_back (s : CharSet) (limit offset : Nat) (before : Option Char) :
    ∃ outside, run s limit (m.width + offset) (before.or m.front.getLast?) m.back =
        within m ⟨offset, before, []⟩ :: outside ∧
      ∀ d ∈ outside, d.isInside m = false := by
  cases limit with
  | zero => exact ⟨[], rfl, nofun⟩
  | succ limit =>
    cases hback : m.back with
    | nil => exact ⟨[], by simp [run, within, hback], nofun⟩
    | cons b back =>
      refine ⟨if s.mem b then run s limit (m.width + offset + b.utf8Size) (some b) back else [],
        ?_, ?_⟩
      · rw [within, hback]
        rfl
      · intro d hd
        split at hd
        · rw [← List.drop_zero (l := run s limit _ _ back)] at hd
          obtain ⟨w, -, -, -, hw⟩ := exists_of_mem_drop_run hd
          have hrest : back = w ++ d.rest := hw.rest_eq
          simp only [isInside, hback, hrest, decide_eq_false_iff_not, List.length_cons,
            List.length_append]
          omega
        · cases hd

/-- The places of a run in a text with margins are those in the text, and others outside. -/
theorem run_within (s : CharSet) {limit limit' : Nat} (offset : Nat) (before : Option Char)
    (rest : List Char)
    (h : limit' = limit ∨ rest.length ≤ limit ∧ (rest ++ m.back).length ≤ limit') :
    ∃ outside, run s limit' (m.width + offset) (before.or m.front.getLast?) (rest ++ m.back) =
        (run s limit offset before rest).map (within m) ++ outside ∧
      ∀ d ∈ outside, d.isInside m = false := by
  induction rest generalizing limit limit' offset before with
  | nil =>
    have hhere : run s limit offset before [] = [⟨offset, before, []⟩] := by
      cases limit <;> rfl
    rw [hhere, List.nil_append]
    exact run_at_back m s limit' offset before
  | cons ch rest ih =>
    cases limit with
    | zero =>
      have hzero : limit' = 0 := by simpa using h
      exact ⟨[], by rw [hzero]; rfl, nofun⟩
    | succ limit =>
      obtain ⟨limit', rfl⟩ : ∃ n, limit' = n + 1 := by
        refine Nat.exists_eq_succ_of_ne_zero ?_
        rintro rfl
        simp at h
      have hnext : limit' = limit ∨ rest.length ≤ limit ∧ (rest ++ m.back).length ≤ limit' := by
        simpa using h
      obtain ⟨outside, hrun, houtside⟩ := ih (offset + ch.utf8Size) (some ch) hnext
      rw [List.cons_append, run, run]
      -- A character that ends the run in the text ends it with margins too.
      by_cases hch : s.mem ch = true
      · refine ⟨outside, ?_, houtside⟩
        rw [if_pos hch, if_pos hch, Nat.add_assoc, List.map_cons, List.cons_append, ← hrun]
        rfl
      · refine ⟨[], ?_, nofun⟩
        rw [if_neg hch, if_neg hch]
        rfl

end Cursor

/-! ## The edges of words -/

theorem any_kind_of_isBlank (ascii : Bool) {ch? : Option Char}
    (h : ∀ ch ∈ ch?, Blank.isBlank ch = true) : ch?.any (Word.kind ascii) = false := by
  cases ch? with
  | none => rfl
  | some ch => exact Word.kind_of_isBlank ascii (h ch rfl)

/-- The edges of words are the same in a text with margins. -/
theorem holds_within {l : Look} (hl : l.isOfWords = true) (c : Cursor) :
    l.holds (c.within m).before (c.within m).rest.head? = l.holds c.before c.rest.head? := by
  obtain ⟨offset, before, rest⟩ := c
  cases l with
  | word edge ascii =>
    -- A margin is seen where the text ends, and there stands no word character in it.
    have hbefore : (before.or m.front.getLast?).any (Word.kind ascii) =
        before.any (Word.kind ascii) := by
      cases before with
      | none =>
        exact any_kind_of_isBlank ascii fun ch hch =>
          m.isBlank_front ch (List.mem_of_getLast? hch)
      | some ch => rfl
    have hafter : (rest ++ m.back).head?.any (Word.kind ascii) =
        rest.head?.any (Word.kind ascii) := by
      cases rest with
      | nil =>
        exact any_kind_of_isBlank ascii fun ch hch => m.isBlank_back ch (List.mem_of_head? hch)
      | cons ch rest => rfl
    show edge.holds _ _ = edge.holds _ _
    exact congrArg₂ _ hbefore hafter
  | _ => cases hl

/-- A place among blanks, or between blanks and an end of the text. -/
def Cursor.IsBlank (c : Cursor) : Prop :=
  (∀ ch ∈ c.before, Blank.isBlank ch = true) ∧ ∀ ch ∈ c.rest.head?, Blank.isBlank ch = true

/-- Among blanks there is no edge of a word. -/
theorem Cursor.IsBlank.not_holdsAt {c : Cursor} (h : c.IsBlank) (ascii : Bool) :
    ¬ (Look.word .boundary ascii).HoldsAt c := by
  intro hedge
  have hne : (c.before.any (Word.kind ascii) != c.rest.head?.any (Word.kind ascii)) = true := hedge
  rw [any_kind_of_isBlank ascii h.1, any_kind_of_isBlank ascii h.2] at hne
  cases hne

/-- A place behind the text, in the margin, is among blanks. -/
theorem Cursor.isBlank_of_reads {c d : Cursor} {w : List Char} (h : (c.within m).Reads w d)
    (houtside : d.isInside m = false) : d.IsBlank := by
  have hshort : d.rest.length < m.back.length := by simpa [isInside] using houtside
  have hrest : c.rest ++ m.back = w ++ d.rest := h.rest_eq
  -- What is read reaches into the margin, which is split in two.
  rcases List.append_eq_append_iff.mp hrest with ⟨b, hw, hback⟩ | ⟨b, -, hdrest⟩
  · have hb : b ≠ [] := by
      rintro rfl
      rw [hback, List.nil_append] at hshort
      exact Nat.lt_irrefl _ hshort
    have hlast : d.before = b.getLast? := by
      rw [h.before_eq, hw, List.getLast?_append_of_ne_nil _ hb, List.getLast?_eq_some_getLast hb,
        Option.some_or]
    constructor
    · intro ch hch
      rw [hlast] at hch
      exact m.isBlank_back ch (hback ▸ List.mem_append_left _ (List.mem_of_getLast? hch))
    · intro ch hch
      exact m.isBlank_back ch (hback ▸ List.mem_append_right _ (List.mem_of_head? hch))
  · rw [hdrest, List.length_append] at hshort
    omega

/-! ## Nodes -/

/-- What is kept of a list that is put together is put together from what is kept, if parts may be
left out of which nothing is kept. -/
theorem filter_flatMap_of_filter {α β : Type} {f : α → List β} {p : β → Bool} {q : α → Bool}
    {as : List α} (h : ∀ a ∈ as, q a = false → (f a).filter p = []) :
    (as.flatMap f).filter p = (as.filter q).flatMap fun a => (f a).filter p := by
  induction as with
  | nil => rfl
  | cons a as ih =>
    obtain ⟨ha, h⟩ := List.forall_mem_cons.mp h
    rw [List.flatMap_cons, List.filter_append, ih h, List.filter_cons]
    cases hq : q a with
    | true => rfl
    | false => rw [ha hq]; rfl

namespace Node

/-- A way that is listed, in the text with margins. -/
def shiftWay (m : Margins) (w : Cursor × List (Nat × Span)) : Cursor × List (Nat × Span) :=
  (w.1.within m, shiftGroups m.width w.2)

/-- Of a run that may be longer in the text with margins the same places are kept. -/
theorem filter_drop_of_outside (ds : List Cursor) {outside : List Cursor} (least : Nat)
    (h : ∀ d ∈ outside, d.isInside m = false) :
    ((ds.map (Cursor.within m) ++ outside).drop least).filter (Cursor.isInside m) =
      (ds.drop least).map (Cursor.within m) := by
  have hkept : ((ds.drop least).map (Cursor.within m)).filter (Cursor.isInside m) =
      (ds.drop least).map (Cursor.within m) := by
    refine List.filter_eq_self.mpr fun d hd => ?_
    obtain ⟨d, -, rfl⟩ := List.mem_map.mp hd
    exact Cursor.isInside_within m d
  have hnone : (outside.drop (least - (ds.map (Cursor.within m)).length)).filter
      (Cursor.isInside m) = [] :=
    List.filter_eq_nil_iff.mpr fun d hd => by simp [h d (List.mem_of_mem_drop hd)]
  rw [List.drop_append, List.filter_append, ← List.map_drop, hkept, hnone, List.append_nil]

/-- Nothing that follows a way into the margin comes back out of it. -/
theorem filter_ways_of_outside (node : Node) {c : Cursor} (h : c.isInside m = false) :
    (node.ways c).filter (·.1.isInside m) = [] := by
  refine List.filter_eq_nil_iff.mpr fun w hw hinside => ?_
  obtain ⟨u, hu⟩ := exists_reads_of_mem_ways hw
  rw [hu.isInside m hinside] at h
  cases h

/-- In a text with margins, the ways through a node that do not run into them are those in the
text. -/
def KeepsWays (m : Margins) (node : Node) : Prop :=
  ∀ c, (node.ways (c.within m)).filter (·.1.isInside m) = (node.ways c).map (shiftWay m)

theorem keepsWays_set (s : CharSet) : (set s).KeepsWays m := by
  rintro ⟨offset, before, rest⟩
  cases rest with
  | nil =>
    cases hback : m.back with
    | nil => simp [ways, Cursor.within, hback]
    | cons b back =>
      -- A character of the margin leads into it.
      have houtside : (Cursor.next (m.width + offset) b back).isInside m = false := by
        simp [Cursor.isInside, Cursor.next, hback]
      by_cases hb : s.mem b = true
      · simp [ways, Cursor.within, hback, hb, houtside]
      · simp [ways, Cursor.within, hback, hb]
  | cons ch rest =>
    by_cases hch : s.mem ch = true
    · have hinside := Cursor.isInside_within m (.next offset ch rest)
      rw [Cursor.within_next, Cursor.next, Nat.add_assoc] at hinside
      simp [ways, Cursor.within, hch, hinside, shiftWay, shiftGroups, Cursor.next, Nat.add_assoc]
    · simp [ways, Cursor.within, hch]

theorem keepsWays_run (s : CharSet) (least : Nat) (greatest : Option Nat) (greedy : Bool) :
    (run s least greatest greedy).KeepsWays m := by
  rintro ⟨offset, before, rest⟩
  -- A run that may be of any length may be longer in the text with margins, by what is in them.
  have hlimit : greatest.getD (rest ++ m.back).length = greatest.getD rest.length ∨
      rest.length ≤ greatest.getD rest.length ∧
        (rest ++ m.back).length ≤ greatest.getD (rest ++ m.back).length := by
    cases greatest with
    | none => exact Or.inr ⟨Nat.le_refl _, Nat.le_refl _⟩
    | some n => exact Or.inl rfl
  obtain ⟨outside, hrun, houtside⟩ := Cursor.run_within m s offset before rest hlimit
  have hplaces := filter_drop_of_outside m
    (Cursor.run s (greatest.getD rest.length) offset before rest) least houtside
  rw [← hrun] at hplaces
  simp only [ways, Cursor.within]
  rw [List.filter_map, List.map_map]
  cases greedy with
  | true =>
    rw [if_pos rfl, if_pos rfl, List.filter_reverse]
    refine (congrArg (fun ds => (List.reverse ds).map _) hplaces).trans ?_
    rw [← List.map_reverse, List.map_map]
    rfl
  | false =>
    rw [if_neg Bool.false_ne_true, if_neg Bool.false_ne_true]
    refine (congrArg (List.map _) hplaces).trans ?_
    rw [List.map_map]
    rfl

theorem keepsWays_look {l : Look} (h : l.isOfWords = true) : (look l).KeepsWays m := by
  intro c
  simp only [ways, holds_within m h]
  split
  · simp [Cursor.isInside_within, shiftWay, shiftGroups]
  · rfl

variable {m}

theorem KeepsWays.group {body : Node} (h : body.KeepsWays m) (index : Nat) :
    (group index body).KeepsWays m := by
  intro c
  rw [ways, ways, List.filter_map, List.map_map]
  refine (congrArg (List.map _) (h c)).trans ?_
  rw [List.map_map]
  rfl

theorem KeepsWays.seq {first second : Node} (h₁ : first.KeepsWays m) (h₂ : second.KeepsWays m) :
    (seq first second).KeepsWays m := by
  intro c
  have hsecond : ∀ w : Cursor × List (Nat × Span),
      ((second.ways (w.1.within m)).map fun w' =>
          (w'.1, w'.2 ++ shiftGroups m.width w.2)).filter (·.1.isInside m) =
        ((second.ways w.1).map fun w' => (w'.1, w'.2 ++ w.2)).map (shiftWay m) := by
    intro w
    rw [List.filter_map, List.map_map]
    refine (congrArg (List.map _) (h₂ w.1)).trans ?_
    rw [List.map_map]
    refine List.map_congr_left fun w' _ => ?_
    simp [shiftWay, shiftGroups]
  calc ((Node.seq first second).ways (c.within m)).filter (·.1.isInside m)
      = ((first.ways (c.within m)).filter (·.1.isInside m)).flatMap fun w =>
          ((second.ways w.1).map fun w' => (w'.1, w'.2 ++ w.2)).filter (·.1.isInside m) := by
        -- Nothing that the second part adds to a way into the margin is kept.
        refine filter_flatMap_of_filter fun w _ hw => ?_
        rw [List.filter_map]
        exact congrArg (List.map _) (filter_ways_of_outside m second hw)
    _ = (first.ways c).flatMap fun w =>
          ((second.ways w.1).map fun w' => (w'.1, w'.2 ++ w.2)).map (shiftWay m) := by
        rw [h₁, List.flatMap_map]
        exact List.flatMap_congr fun w _ => hsecond w
    _ = ((Node.seq first second).ways c).map (shiftWay m) := by
        rw [ways, List.map_flatMap]

theorem KeepsWays.alt {first second : Node} (h₁ : first.KeepsWays m) (h₂ : second.KeepsWays m) :
    (alt first second).KeepsWays m := by
  intro c
  rw [ways, ways, List.filter_append, h₁, h₂, List.map_append]

theorem KeepsWays.times {body : Node} (h : body.KeepsWays m) (least : Nat) (greatest : Option Nat)
    (greedy : Bool) : (times body least greatest greedy).KeepsWays m := by
  intro c
  have hhere : [(c.within m, ([] : List (Nat × Span)))].filter (·.1.isInside m) =
      [(c, [])].map (shiftWay m) := by
    simp [Cursor.isInside_within, shiftWay, shiftGroups]
  cases greedy with
  | true =>
    rw [ways, ways, if_pos rfl, if_pos rfl, List.filter_append, h, hhere, List.map_append]
  | false =>
    rw [ways, ways, if_neg Bool.false_ne_true, if_neg Bool.false_ne_true,
      ← List.singleton_append, List.filter_append, h, hhere, ← List.map_append]
    rfl

/-- **The ways that do not run into the margins** are those in the text, for a node that looks at
nothing but the edges of words. -/
theorem keepsWays_of_looksAtWords (m : Margins) {node : Node} (h : node.looksAtWords = true) :
    node.KeepsWays m := by
  induction node with
  | empty =>
    intro c
    simp [ways, Cursor.isInside_within, shiftWay, shiftGroups]
  | set s => exact keepsWays_set m s
  | run s least greatest greedy => exact keepsWays_run m s least greatest greedy
  | look l => exact keepsWays_look m h
  | group index body ih => exact (ih h).group index
  | seq first second ih₁ ih₂ =>
    obtain ⟨h₁, h₂⟩ := Bool.and_eq_true_iff.mp h
    exact (ih₁ h₁).seq (ih₂ h₂)
  | alt first second ih₁ ih₂ =>
    obtain ⟨h₁, h₂⟩ := Bool.and_eq_true_iff.mp h
    exact (ih₁ h₁).alt (ih₂ h₂)
  | times body least greatest greedy ih => exact (ih h).times least greatest greedy

end Node

/-! ## Matches -/

/-- A node that can be searched for without regard to margins: it has no loops, looks at nothing but
the edges of words, and every way through it starts and ends at one. -/
structure Node.HasEdges (ascii : Bool) (node : Node) : Prop where
  isLoopFree : node.isLoopFree = true
  looksAtWords : node.looksAtWords = true
  opens : node.opens (.word .boundary ascii) = true
  closes : node.closes (.word .boundary ascii) false = true

variable {m} {ascii : Bool} {node : Node} (h : node.HasEdges ascii)

include h

/-- Among blanks there is no match. -/
theorem matchAt?_of_isBlank {c : Cursor} (hc : c.IsBlank) : matchAt? node c = none := by
  refine Option.eq_none_iff_forall_not_mem.mpr fun found hfound => ?_
  obtain ⟨d, hway, -⟩ := way_of_matchAt? hfound
  exact hc.not_holdsAt ascii (hway.holdsAt_start h.opens)

/-- **The preferred match at a place** is the one in the text. -/
theorem matchAt?_within (c : Cursor) :
    matchAt? node (c.within m) = (matchAt? node c).map (Match.shift m.width) := by
  have hways := Node.keepsWays_of_looksAtWords m h.looksAtWords c
  have hlisted := matchAt?_eq_head? h.isLoopFree (c.within m)
  have hoffset : (c.within m).offset = m.width + c.offset := rfl
  rw [matchAt?_eq_head? h.isLoopFree c, Option.map_map]
  cases hall : node.ways (c.within m) with
  | nil =>
    rw [hall] at hways hlisted
    rw [hlisted, List.map_eq_nil_iff.mp hways.symm]
    rfl
  | cons w ws =>
    obtain ⟨e, gs⟩ := w
    rw [hall] at hways hlisted
    -- The first way is that of a match, which ends at the edge of a word, and so not in the margin.
    obtain ⟨d, hway, hspan⟩ := way_of_matchAt? hlisted
    obtain ⟨u, hd⟩ := hway.exists_reads
    obtain ⟨v, he⟩ := Node.exists_reads_of_mem_ways (hall ▸ List.mem_cons_self)
    obtain rfl : e = d := he.eq_of_offset_eq hd (Span.mk.inj hspan).2
    have hinside : e.isInside m = true := by
      by_contra houtside
      have hblank := Cursor.isBlank_of_reads m hd (Bool.eq_false_iff.mpr houtside)
      exact hblank.not_holdsAt ascii (hway.holdsAt_stop h.closes nofun)
    rw [List.filter_cons, if_pos hinside] at hways
    cases hinner : node.ways c with
    | nil =>
      rw [hinner] at hways
      cases hways
    | cons w' ws' =>
      rw [hinner, List.map_cons] at hways
      have hfirst : (e, gs) = Node.shiftWay m w' := (List.cons.inj hways).1
      rw [hlisted, List.head?_cons, hfirst]
      rfl

theorem matchesFrom_append_of_isBlank {front : List Cursor} (hfront : ∀ c ∈ front, c.IsBlank)
    (floor : Option Nat) (cs : List Cursor) :
    matchesFrom node floor (front ++ cs) = matchesFrom node floor cs := by
  induction front with
  | nil => rfl
  | cons c front ih =>
    obtain ⟨hc, hfront⟩ := List.forall_mem_cons.mp hfront
    rw [List.cons_append, matchesFrom, matchAt?_of_isBlank h hc, ih hfront, ite_self]

/-- From the places in the text, and others among blanks, the matches are those in the text. -/
theorem matchesFrom_within {back : List Cursor} (hback : ∀ c ∈ back, c.IsBlank)
    (floor : Option Nat) (cs : List Cursor) :
    matchesFrom node (floor.map (m.width + ·)) (cs.map (Cursor.within m) ++ back) =
      (matchesFrom node floor cs).map (Match.shift m.width) := by
  induction cs generalizing floor with
  | nil =>
    have hnone := matchesFrom_append_of_isBlank h hback (floor.map (m.width + ·)) []
    rwa [List.append_nil] at hnone
  | cons c cs ih =>
    have hoffset : (c.within m).offset = m.width + c.offset := rfl
    -- The end of the last match moves along with the text, so that the same places are passed over.
    have hbelow : (floor.map (m.width + ·)).any (m.width + c.offset < ·) =
        floor.any (c.offset < ·) := by
      cases floor with
      | none => rfl
      | some n => simp
    have hthere : (floor.map (m.width + ·) == some (m.width + c.offset)) =
        (floor == some c.offset) := by
      cases floor with
      | none => rfl
      | some n => simp
    simp only [List.map_cons, List.cons_append, matchesFrom, hoffset, hbelow, hthere,
      matchAt?_within h]
    split
    · exact ih floor
    · cases matchAt? node c with
      | none => exact ih floor
      | some found =>
        have hempty : (found.shift m.width).span.isEmpty = found.span.isEmpty := by
          rw [Bool.eq_iff_iff, Span.isEmpty_iff, Span.isEmpty_iff]
          simp [Match.shift, Span.shift]
        simp only [Option.map_some, hempty]
        split
        · exact ih floor
        · rw [List.map_cons, ← ih]
          rfl

omit h

/-- The places of a text with blanks before it. -/
theorem Cursor.exists_onward_append {front : List Char}
    (hfront : ∀ ch ∈ front, Blank.isBlank ch = true) (offset : Nat) (before : Option Char)
    (hbefore : ∀ ch ∈ before, Blank.isBlank ch = true) (rest : List Char) :
    ∃ cs, onward offset before (front ++ rest) =
        cs ++ onward (offset + Utf8.size front) (front.getLast?.or before) rest ∧
      ∀ c ∈ cs, c.IsBlank := by
  induction front generalizing offset before with
  | nil => exact ⟨[], rfl, nofun⟩
  | cons ch front ih =>
    obtain ⟨hch, hfront⟩ := List.forall_mem_cons.mp hfront
    obtain ⟨cs, hcs, hblank⟩ := ih hfront (offset + ch.utf8Size) (some ch) (by simpa)
    refine ⟨⟨offset, before, ch :: (front ++ rest)⟩ :: cs, ?_, ?_⟩
    · have hlast : (ch :: front).getLast?.or before = front.getLast?.or (some ch) := by
        rw [List.getLast?_cons]
        cases front.getLast? with
        | none => rfl
        | some d => rfl
      rw [List.cons_append, onward, hcs, hlast, Utf8.size_cons, ← Nat.add_assoc]
      rfl
    · exact List.forall_mem_cons.mpr ⟨⟨hbefore, by simpa⟩, hblank⟩

/-- The places of a text with margins, from the start of the text. -/
theorem Cursor.exists_onward_within (m : Margins) (offset : Nat) (before : Option Char)
    (rest : List Char) :
    ∃ cs, onward (m.width + offset) (before.or m.front.getLast?) (rest ++ m.back) =
        (onward offset before rest).map (within m) ++ cs ∧
      ∀ c ∈ cs, c.isInside m = false := by
  induction rest generalizing offset before with
  | nil =>
    cases hback : m.back with
    | nil => exact ⟨[], by simp [onward, within, hback], nofun⟩
    | cons b back =>
      refine ⟨onward (m.width + offset + b.utf8Size) (some b) back, ?_, ?_⟩
      · rw [onward, List.map_singleton, within, hback]
        rfl
      · intro c hc
        obtain ⟨w, hw⟩ := mem_onward_iff.mp hc
        have hrest : back = w ++ c.rest := hw.rest_eq
        simp only [isInside, hback, hrest, decide_eq_false_iff_not, List.length_cons,
          List.length_append]
        omega
  | cons ch rest ih =>
    obtain ⟨cs, hcs, hblank⟩ := ih (offset + ch.utf8Size) (some ch)
    refine ⟨cs, ?_, hblank⟩
    rw [List.cons_append, onward, onward, List.map_cons, List.cons_append, ← hcs, Nat.add_assoc]
    rfl

/-- **The matches in a text with margins** are those in the text, further on. -/
theorem findAll_around (m : Margins) {p : Pattern} (h : p.node.HasEdges ascii) (text : String) :
    p.findAll (m.around text) = (p.findAll text).map (Match.shift m.width) := by
  obtain ⟨front, hfront, hfrontBlank⟩ := Cursor.exists_onward_append m.isBlank_front 0
    none nofun (text.toList ++ m.back)
  obtain ⟨back, hback, hbackOutside⟩ := Cursor.exists_onward_within m 0 none text.toList
  rw [Nat.zero_add, Option.or_none] at hfront
  rw [Nat.add_zero, Option.none_or] at hback
  have hbackBlank : ∀ c ∈ back, c.IsBlank := by
    intro c hc
    have hmem : c ∈ Cursor.onward m.width m.front.getLast? (text.toList ++ m.back) :=
      hback ▸ List.mem_append_right _ hc
    obtain ⟨w, hw⟩ := Cursor.mem_onward_iff.mp hmem
    exact Cursor.isBlank_of_reads m (c := Cursor.ofText text) hw (hbackOutside c hc)
  have hplaces : Cursor.all (m.around text) =
      front ++ ((Cursor.all text).map (Cursor.within m) ++ back) := by
    rw [Cursor.all, Cursor.all, Margins.toList_around, List.append_assoc, hfront, ← hback]
    rfl
  rw [findAll, findAll, hplaces, matchesFrom_append_of_isBlank h hfrontBlank]
  exact matchesFrom_within h hbackBlank none (Cursor.all text)

end Pattern

end Timephrase
