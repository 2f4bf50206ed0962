import Timephrase.Proofs.Pattern.Need
import Timephrase.Proofs.Pattern.Order

/-!
# The same piece in another place

Whether a way leads over a piece of a text depends on the characters of the piece and on the two next
to it.  A piece that is matched in one text is therefore matched wherever it stands between the same
characters, unless another match is in its way there.

## Main definitions

* `Pattern.IsLocal`: a relation between places that depends on nothing further away
* `Pattern.Node.boundsInOrder`: no run of a node has its bounds the wrong way round

## Main results

* `Pattern.Node.isLocal_way`: the ways through a node are local
* `Pattern.Node.mem_ways_of_way`: every way through a node without loops is listed
* `Pattern.exists_mem_findAll_of_way`: where a way starts, a match is found
-/

namespace Timephrase.Pattern

open Cursor

variable {c d c' d' : Cursor} {gs : List (Nat × Span)} {w w' : List Char}

namespace Cursor.Reads

/-- What is read between two places is determined by them. -/
theorem unique (h : c.Reads w d) (h' : c.Reads w' d) : w = w' :=
  List.append_cancel_right (h.rest_eq.symm.trans h'.rest_eq)

theorem head?_rest (h : c.Reads w d) : c.rest.head? = w.head?.or d.rest.head? := by
  rw [h.rest_eq, List.head?_append]

end Cursor.Reads

/-! ## Ways are local -/

/-- A relation between places is local if it holds of any two places with the same characters between
them, before the first of them and after the second. -/
def IsLocal (step : Cursor → Cursor → List (Nat × Span) → Prop) : Prop :=
  ∀ ⦃c d gs w c' d'⦄, step c d gs → c.Reads w d → c'.Reads w d' → c'.before = c.before →
    d'.rest.head? = d.rest.head? → ∃ gs', step c' d' gs'

/-- Of two local steps one after the other the place between them can be found again. -/
theorem IsLocal.exists_middle {first second : Cursor → Cursor → List (Nat × Span) → Prop}
    (hfirst : IsLocal first) (hsecond : IsLocal second) {e : Cursor} {hs ks : List (Nat × Span)}
    {u v : List Char} (h₁ : first c e hs) (h₂ : second e d ks) (hu : c.Reads u e)
    (hv : e.Reads v d) (hw : c.Reads w d) (hw' : c'.Reads w d') (hbefore : c'.before = c.before)
    (hafter : d'.rest.head? = d.rest.head?) :
    ∃ e' hs' ks', first c' e' hs' ∧ second e' d' ks' := by
  obtain rfl : w = u ++ v := hw.unique (hu.trans hv)
  obtain ⟨e', hu', hv'⟩ := hw'.exists_of_append
  have hhead : e'.rest.head? = e.rest.head? := by rw [hv'.head?_rest, hv.head?_rest, hafter]
  have hlast : e'.before = e.before := by rw [hu'.before_eq, hu.before_eq, hbefore]
  obtain ⟨hs', h₁'⟩ := hfirst h₁ hu hu' hbefore hhead
  obtain ⟨ks', h₂'⟩ := hsecond h₂ hv hv' hlast hafter
  exact ⟨e', hs', ks', h₁', h₂'⟩

theorem IsLocal.copies {step : Cursor → Cursor → List (Nat × Span) → Prop} (h : IsLocal step)
    (hreads : ∀ c d gs, step c d gs → ∃ w, c.Reads w d) (n : Nat) : IsLocal (Copies step n) := by
  induction n with
  | zero =>
    rintro c d gs w c' d' ⟨rfl, -⟩ hw hw' - -
    obtain rfl := hw.unique (.refl d)
    exact ⟨[], Reads.nil_iff.mp hw', rfl⟩
  | succ n ih =>
    rintro c d gs w c' d' ⟨e, hs, ks, h₁, h₂, -⟩ hw hw' hbefore hafter
    obtain ⟨u, hu⟩ := hreads c e hs h₁
    obtain ⟨v, hv⟩ := h₂.exists_reads hreads
    obtain ⟨e', hs', ks', h₁', h₂'⟩ := h.exists_middle ih h₁ h₂ hu hv hw hw' hbefore hafter
    exact ⟨_, e', hs', ks', h₁', h₂', rfl⟩

namespace Node

/-- **The ways through a node are local.** -/
theorem isLocal_way (node : Node) : IsLocal node.Way := by
  -- On the node. Only conditions on places look beyond what is read, and no further than one
  -- character.
  induction node with
  | empty =>
    rintro c d gs w c' d' ⟨rfl, -⟩ hw hw' - -
    obtain rfl := hw.unique (.refl d)
    exact ⟨[], Reads.nil_iff.mp hw', rfl⟩
  | set s =>
    rintro c d gs w c' d' ⟨ch, hch, hread, -⟩ hw hw' - -
    obtain rfl := hw.unique hread
    exact ⟨[], ch, hch, hw', rfl⟩
  | run s least greatest greedy =>
    rintro c d gs w c' d' ⟨r, hmem, hleast, hgreatest, hread, -⟩ hw hw' - -
    obtain rfl := hw.unique hread
    exact ⟨[], w, hmem, hleast, hgreatest, hw', rfl⟩
  | look l =>
    rintro c d gs w c' d' ⟨hl, rfl, -⟩ hw hw' hbefore hafter
    obtain rfl := hw.unique (.refl d)
    obtain rfl := Reads.nil_iff.mp hw'
    exact ⟨[], by rwa [hbefore, hafter], rfl, rfl⟩
  | group index body ih =>
    rintro c d gs w c' d' ⟨hs, h, -⟩ hw hw' hbefore hafter
    obtain ⟨hs', h'⟩ := ih h hw hw' hbefore hafter
    exact ⟨_, hs', h', rfl⟩
  | seq first second ih₁ ih₂ =>
    rintro c d gs w c' d' ⟨e, hs, ks, h₁, h₂, -⟩ hw hw' hbefore hafter
    obtain ⟨u, hu⟩ := h₁.exists_reads
    obtain ⟨v, hv⟩ := h₂.exists_reads
    obtain ⟨e', hs', ks', h₁', h₂'⟩ :=
      ih₁.exists_middle ih₂ h₁ h₂ hu hv hw hw' hbefore hafter
    exact ⟨_, e', hs', ks', h₁', h₂', rfl⟩
  | alt first second ih₁ ih₂ =>
    rintro c d gs w c' d' (h | h) hw hw' hbefore hafter
    · obtain ⟨gs', h'⟩ := ih₁ h hw hw' hbefore hafter
      exact ⟨gs', Or.inl h'⟩
    · obtain ⟨gs', h'⟩ := ih₂ h hw hw' hbefore hafter
      exact ⟨gs', Or.inr h'⟩
  | times body least greatest greedy ih =>
    rintro c d gs w c' d' ⟨n, hleast, hgreatest, h⟩ hw hw' hbefore hafter
    obtain ⟨gs', h'⟩ := ih.copies (fun _ _ _ h => h.exists_reads) n h hw hw' hbefore hafter
    exact ⟨gs', n, hleast, hgreatest, h'⟩

/-! ## Every way is listed -/

/-- Whether no run in a node has its bounds the wrong way round. -/
def boundsInOrder : Node → Bool
  | run _ least greatest _ => greatest.all (least ≤ ·)
  | group _ body => body.boundsInOrder
  | seq first second => first.boundsInOrder && second.boundsInOrder
  | alt first second => first.boundsInOrder && second.boundsInOrder
  | times body _ _ _ => body.boundsInOrder
  | _ => true

end Node

/-- A run has all places that its characters lead to. -/
theorem Cursor.mem_drop_run {s : CharSet} {limit least offset : Nat} {before : Option Char}
    {rest : List Char} (hmem : ∀ ch ∈ w, s.mem ch = true) (hleast : least ≤ w.length)
    (hlimit : w.length ≤ limit) (h : (⟨offset, before, rest⟩ : Cursor).Reads w d) :
    d ∈ (Cursor.run s limit offset before rest).drop least := by
  -- On the characters: each is a step of the run and counts against both bounds.
  induction w generalizing limit least offset before rest with
  | nil =>
    obtain rfl := Reads.nil_iff.mp h
    obtain rfl := Nat.le_zero.mp hleast
    cases limit with
    | zero => exact List.mem_cons_self
    | succ limit =>
      cases rest with
      | nil => exact List.mem_cons_self
      | cons ch rest => exact List.mem_cons_self
  | cons ch w ih =>
    obtain ⟨rest', hrest, hread⟩ := Reads.cons_iff.mp h
    obtain rfl : rest = ch :: rest' := hrest
    obtain ⟨hch, hmem⟩ := List.forall_mem_cons.mp hmem
    obtain ⟨limit, rfl⟩ := Nat.exists_eq_add_one_of_ne_zero
      (Nat.ne_of_gt (Nat.lt_of_lt_of_le (Nat.succ_pos w.length) hlimit))
    have hlimit : w.length ≤ limit := Nat.le_of_succ_le_succ hlimit
    rw [Cursor.run, if_pos hch]
    cases least with
    | zero => exact List.mem_cons_of_mem _ (ih hmem (Nat.zero_le _) hlimit hread)
    | succ least => exact ih hmem (Nat.le_of_succ_le_succ hleast) hlimit hread

namespace Node

/-- **Every way through a node without loops is listed.** -/
theorem mem_ways_of_way {node : Node} (hloop : node.isLoopFree = true)
    (hbounds : node.boundsInOrder = true) (h : node.Way c d gs) : (d, gs) ∈ node.ways c := by
  induction node generalizing c d gs with
  | empty =>
    obtain ⟨rfl, rfl⟩ := h
    exact List.mem_singleton_self _
  | set s =>
    obtain ⟨ch, hch, hread, rfl⟩ := h
    obtain ⟨rest, hrest, hend⟩ := Reads.cons_iff.mp hread
    obtain rfl := Reads.nil_iff.mp hend
    simp [ways, hrest, hch]
  | run s least greatest greedy =>
    obtain ⟨w, hmem, hleast, hgreatest, hread, rfl⟩ := h
    -- A run without a greatest length is searched for as far as the text goes.
    have hlimit : w.length ≤ greatest.getD c.rest.length := by
      cases greatest with
      | none => simp [hread.rest_eq]
      | some n =>
        have hle : least ≤ n := by simpa [boundsInOrder] using hbounds
        exact Nat.max_eq_right hle ▸ hgreatest n rfl
    exact mem_ways_run.mpr ⟨Cursor.mem_drop_run hmem hleast hlimit hread, rfl⟩
  | look l =>
    obtain ⟨hl, rfl, rfl⟩ := h
    simp [ways, hl]
  | group index body ih =>
    obtain ⟨hs, h, rfl⟩ := h
    exact List.mem_map.mpr ⟨(d, hs), ih hloop hbounds h, rfl⟩
  | seq first second ih₁ ih₂ =>
    obtain ⟨e, hs, ks, h₁, h₂, rfl⟩ := h
    obtain ⟨hloop₁, hloop₂⟩ := Bool.and_eq_true_iff.mp hloop
    obtain ⟨hbounds₁, hbounds₂⟩ := Bool.and_eq_true_iff.mp hbounds
    exact List.mem_flatMap.mpr ⟨(e, hs), ih₁ hloop₁ hbounds₁ h₁,
      List.mem_map.mpr ⟨(d, ks), ih₂ hloop₂ hbounds₂ h₂, rfl⟩⟩
  | alt first second ih₁ ih₂ =>
    obtain ⟨hloop₁, hloop₂⟩ := Bool.and_eq_true_iff.mp hloop
    obtain ⟨hbounds₁, hbounds₂⟩ := Bool.and_eq_true_iff.mp hbounds
    rcases h with h | h
    · exact List.mem_append_left _ (ih₁ hloop₁ hbounds₁ h)
    · exact List.mem_append_right _ (ih₂ hloop₂ hbounds₂ h)
  | times body least greatest greedy ih =>
    simp only [isLoopFree, Bool.and_eq_true, beq_iff_eq] at hloop
    obtain ⟨⟨rfl, rfl⟩, hloop⟩ := hloop
    -- The body is gone through once or left out.
    rcases way_optional.mp h with ⟨rfl, rfl⟩ | h
    · exact mem_ways_times.mpr (Or.inr ⟨rfl, rfl⟩)
    · exact mem_ways_times.mpr (Or.inl (ih hloop hbounds h))

end Node

/-! ## Matches -/

/-- Where a way starts there is a preferred match. -/
theorem exists_matchAt?_of_way {node : Node} (hloop : node.isLoopFree = true)
    (hbounds : node.boundsInOrder = true) (h : node.Way c d gs) : ∃ m, matchAt? node c = some m := by
  rw [matchAt?_eq_head? hloop]
  cases hways : node.ways c with
  | nil =>
    have hmem := Node.mem_ways_of_way hloop hbounds h
    rw [hways] at hmem
    cases hmem
  | cons way ways => exact ⟨_, rfl⟩

/-- **Where a way starts, a match is found**, if every way reads something: one that starts there, or
one that starts before and reaches further. -/
theorem exists_mem_findAll_of_way {p : Pattern} {text : String} {kind : CharSet → Bool}
    (hloop : p.node.isLoopFree = true) (hbounds : p.node.boundsInOrder = true)
    (hneeds : p.node.needs kind = true) {u v : List Char} (ht : text.toList = u ++ v)
    (h : p.node.Way (.between u v) d gs) : ∃ m ∈ p.findAll text, m.span.Covers (Utf8.size u) := by
  obtain ⟨m, hm⟩ := exists_matchAt?_of_way hloop hbounds h
  obtain ⟨e, hway, hspan⟩ := way_of_matchAt? hm
  obtain ⟨w, hw, ch, hch, -⟩ := hway.exists_mem_of_needs hneeds
  have hstart : m.span.start = Utf8.size u := start_of_matchAt? hm
  have hne : m.span.start < m.span.stop := by
    rw [hspan]
    exact hw.offset_lt (List.ne_nil_of_mem hch)
  -- The match there is found unless one that was found before it reaches over its start.
  rcases mem_findAll_or_overlapped ht hm hne with hfound | ⟨m', hfound, hlt, hlt'⟩
  · exact ⟨m, hfound, Nat.le_of_eq hstart, hstart ▸ hne⟩
  · exact ⟨m', hfound, Nat.le_of_lt hlt, hlt'⟩

end Timephrase.Pattern
