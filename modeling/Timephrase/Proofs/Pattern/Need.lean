import Timephrase.Proofs.Pattern.Finding
import Timephrase.Proofs.Pattern.Row

/-!
# What every match needs

From the parts of a node it can be computed that every way through it reads a character of a certain
kind, and which groups a way can record.

## Main definitions

* `CharSet.within`: the members of a set lie in a range
* `Pattern.Node.needs`: every way reads a character of a set of a certain kind
* `Pattern.Node.indices`: the groups of a node

## Main results

* `Pattern.matchAt?_eq_none_of_needs`: a place before a text that lacks what every match needs
* `Pattern.exists_mem_of_needs`: a text with a match has a character of that kind
* `Pattern.Node.Way.mem_indices`: a way records groups of its node alone
* `Pattern.Node.Row.lookup_group`: the span that a group in a row is given
-/

namespace Timephrase

/-- Whether the members of a set lie in a range of code points. -/
def CharSet.within (lo hi : Nat) (s : CharSet) : Bool :=
  s.ranges.list.all fun range => lo ≤ range.1 && range.2 ≤ hi

theorem CharSet.toNat_of_within {lo hi : Nat} {s : CharSet} {ch : Char}
    (h : s.within lo hi = true) (hmem : s.mem ch = true) : lo ≤ ch.toNat ∧ ch.toNat ≤ hi := by
  obtain ⟨range, hrange, hch⟩ := List.any_eq_true.mp hmem
  have hwithin := List.all_eq_true.mp h range hrange
  simp only [Bool.and_eq_true, decide_eq_true_eq] at hch hwithin
  omega

namespace Pattern

namespace Node

/-- Whether every way through a node reads a character of a set of some kind. -/
def needs (kind : CharSet → Bool) : Node → Bool
  | set s => kind s
  | run s least _ _ => 0 < least && kind s
  | group _ body => body.needs kind
  | seq first second => first.needs kind || second.needs kind
  | alt first second => first.needs kind && second.needs kind
  | times body least _ _ => 0 < least && body.needs kind
  | _ => false

variable {kind : CharSet → Bool} {node : Node} {c d : Cursor} {gs : List (Nat × Span)}

/-- A way through a node that needs a character reads one. -/
theorem Way.exists_mem_of_needs (h : node.Way c d gs) (hneeds : node.needs kind = true) :
    ∃ w, c.Reads w d ∧ ∃ ch ∈ w, ∃ s, kind s = true ∧ s.mem ch = true := by
  induction node generalizing c d gs with
  | set s =>
    obtain ⟨ch, hch, hw, -⟩ := h
    exact ⟨[ch], hw, ch, List.mem_singleton_self ch, s, hneeds, hch⟩
  | run s least greatest greedy =>
    simp only [needs, Bool.and_eq_true, decide_eq_true_eq] at hneeds
    obtain ⟨w, hmem, hleast, -, hw, -⟩ := h
    obtain ⟨ch, hch⟩ := List.exists_mem_of_length_pos (Nat.lt_of_lt_of_le hneeds.1 hleast)
    exact ⟨w, hw, ch, hch, s, hneeds.2, hmem ch hch⟩
  | group index body ih =>
    obtain ⟨hs, h, -⟩ := h
    exact ih h hneeds
  | seq first second ih₁ ih₂ =>
    obtain ⟨e, hs, ks, h₁, h₂, -⟩ := h
    rcases Bool.or_eq_true_iff.mp hneeds with hneeds | hneeds
    · obtain ⟨w, hw, ch, hch, hs⟩ := ih₁ h₁ hneeds
      obtain ⟨w', hw'⟩ := h₂.exists_reads
      exact ⟨w ++ w', hw.trans hw', ch, List.mem_append_left _ hch, hs⟩
    · obtain ⟨w, hw⟩ := h₁.exists_reads
      obtain ⟨w', hw', ch, hch, hs⟩ := ih₂ h₂ hneeds
      exact ⟨w ++ w', hw.trans hw', ch, List.mem_append_right _ hch, hs⟩
  | alt first second ih₁ ih₂ =>
    simp only [needs, Bool.and_eq_true] at hneeds
    rcases h with h | h
    · exact ih₁ h hneeds.1
    · exact ih₂ h hneeds.2
  | times body least greatest greedy ih =>
    simp only [needs, Bool.and_eq_true, decide_eq_true_eq] at hneeds
    obtain ⟨n, hn, -, h⟩ := h
    -- The body is done at least once, and its first copy reads the character.
    obtain ⟨n, rfl⟩ := Nat.exists_eq_succ_of_ne_zero (Nat.ne_of_gt (Nat.lt_of_lt_of_le hneeds.1 hn))
    obtain ⟨e, hs, ks, h₁, h₂, -⟩ := h
    obtain ⟨w, hw, ch, hch, hs⟩ := ih h₁ hneeds.2
    obtain ⟨w', hw'⟩ := h₂.exists_reads fun _ _ _ h => h.exists_reads
    exact ⟨w ++ w', hw.trans hw', ch, List.mem_append_left _ hch, hs⟩
  | _ => cases hneeds

/-! ## Groups -/

/-- The groups of a node. -/
def indices : Node → List Nat
  | group index body => index :: body.indices
  | seq first second => first.indices ++ second.indices
  | alt first second => first.indices ++ second.indices
  | times body _ _ _ => body.indices
  | _ => []

theorem indices_ofBranches (nodes : List Node) :
    (ofBranches nodes).indices = nodes.flatMap indices := by
  induction nodes with
  | nil => rfl
  | cons node nodes ih =>
    cases nodes with
    | nil => simp [ofBranches]
    | cons node' nodes =>
      rw [List.flatMap_cons, ← ih]
      rfl

/-- **A way records groups of its node alone.** -/
theorem Way.mem_indices (h : node.Way c d gs) : ∀ g ∈ gs, g.1 ∈ node.indices := by
  induction node generalizing c d gs with
  | empty =>
    obtain ⟨-, rfl⟩ := h
    simp
  | set s =>
    obtain ⟨ch, -, -, rfl⟩ := h
    simp
  | run s least greatest greedy =>
    obtain ⟨w, -, -, -, -, rfl⟩ := h
    simp
  | look l =>
    obtain ⟨-, -, rfl⟩ := h
    simp
  | group index body ih =>
    obtain ⟨hs, h, rfl⟩ := h
    intro g hg
    rcases List.mem_cons.mp hg with rfl | hg
    · exact List.mem_cons_self
    · exact List.mem_cons_of_mem _ (ih h g hg)
  | seq first second ih₁ ih₂ =>
    obtain ⟨e, hs, ks, h₁, h₂, rfl⟩ := h
    intro g hg
    rcases List.mem_append.mp hg with hg | hg
    · exact List.mem_append_right _ (ih₂ h₂ g hg)
    · exact List.mem_append_left _ (ih₁ h₁ g hg)
  | alt first second ih₁ ih₂ =>
    intro g hg
    rcases h with h | h
    · exact List.mem_append_left _ (ih₁ h g hg)
    · exact List.mem_append_right _ (ih₂ h g hg)
  | times body least greatest greedy ih =>
    -- On the copies, each of which is a way through the body.
    obtain ⟨n, -, -, h⟩ := h
    induction n generalizing c gs with
    | zero =>
      obtain ⟨-, rfl⟩ := h
      simp
    | succ n ihn =>
      obtain ⟨e, hs, ks, h₁, h₂, rfl⟩ := h
      intro g hg
      rcases List.mem_append.mp hg with hg | hg
      · exact ihn h₂ g hg
      · exact ih h₁ g hg

/-- A way through nodes one after another records groups of these nodes alone. -/
theorem Row.mem_indices {nodes : List Node} (h : Row nodes c d gs) :
    ∀ g ∈ gs, g.1 ∈ nodes.flatMap indices := by
  induction nodes generalizing c gs with
  | nil =>
    obtain ⟨-, rfl⟩ := h
    simp
  | cons node nodes ih =>
    obtain ⟨e, hs, ks, h₁, h₂, rfl⟩ := h
    intro g hg
    rw [List.flatMap_cons]
    rcases List.mem_append.mp hg with hg | hg
    · exact List.mem_append_right _ (ih h₂ g hg)
    · exact List.mem_append_left _ (h₁.mem_indices g hg)

/-- **The span of a group in a row** is what its body reads, if no later node has the same group. -/
theorem Row.lookup_group {before after : List Node} {index : Nat} {body : Node}
    (h : Row (before ++ group index body :: after) c d gs)
    (hafter : index ∉ after.flatMap indices) :
    ∃ e e' hs ks ls, Row before c e hs ∧ body.Way e e' ks ∧ Row after e' d ls ∧
      gs.lookup index = some ⟨e.offset, e'.offset⟩ := by
  obtain ⟨e, hs, gs', hbefore, ⟨e', ks', ls, ⟨ks, hbody, rfl⟩, hrest, rfl⟩, rfl⟩ :=
    row_append.mp h
  refine ⟨e, e', hs, ks, ls, hbefore, hbody, hrest, ?_⟩
  -- The groups of the later nodes come first in the record, but none of them is this one.
  have hnone : ls.lookup index = none := by
    refine List.lookup_eq_none_iff.mpr fun g hg => ?_
    have hindex := hrest.mem_indices g hg
    exact bne_iff_ne.mpr fun heq => hafter (heq ▸ hindex)
  rw [List.append_assoc, List.lookup_append, hnone]
  simp

end Node

/-! ## In a text -/

/-- Whether a set holds none of some characters. -/
def holdsNoneOf (cs : List Char) (s : CharSet) : Bool := cs.all fun c => !s.mem c

/-- **There is no match where a character is missing** that every match needs. -/
theorem matchAt?_eq_none_of_needs {node : Node} {cs u v : List Char}
    (hneeds : node.needs (holdsNoneOf cs) = true) (hv : ∀ c ∈ v, c ∈ cs) :
    matchAt? node (.between u v) = none := by
  refine Option.eq_none_iff_forall_ne_some.mpr fun m hm => ?_
  obtain ⟨d, hd, -⟩ := way_of_matchAt? hm
  obtain ⟨w, hw, ch, hch, s, hs, hmem⟩ := hd.exists_mem_of_needs hneeds
  have hrest : v = w ++ d.rest := hw.rest_eq
  have hnone := List.all_eq_true.mp hs ch (hv ch (hrest ▸ List.mem_append_left _ hch))
  rw [hmem] at hnone
  cases hnone

/-- **A text with a match has a character that every match needs.** -/
theorem exists_mem_of_needs {p : Pattern} {text : String} {kind : CharSet → Bool}
    (hneeds : p.node.needs kind = true) (h : p.findAll text ≠ []) :
    ∃ ch ∈ text.toList, ∃ s, kind s = true ∧ s.mem ch = true := by
  obtain ⟨m, hm⟩ := List.exists_mem_of_ne_nil _ h
  obtain ⟨u, v, ht, hm⟩ := exists_place_of_mem_findAll hm
  obtain ⟨d, hd, -⟩ := way_of_matchAt? hm
  obtain ⟨w, hw, ch, hch, hs⟩ := hd.exists_mem_of_needs hneeds
  have hrest : v = w ++ d.rest := hw.rest_eq
  exact ⟨ch, by simp [ht, hrest, hch], hs⟩

end Pattern

end Timephrase
