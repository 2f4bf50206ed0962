import Timephrase.Proofs.Pattern.Finding

/-!
# Conditions at the ends of a match

From the parts of a node it can be computed that a condition holds wherever a way through it starts,
or wherever one ends.  Every match found in a text then has the condition at the one or the other of
its ends.

## Main definitions

* `Look.HoldsAt`: a condition holds at a place
* `Pattern.Node.opens`, `Pattern.Node.closes`: the two checks

## Main results

* `Pattern.holds_start_of_mem_findAll`, `Pattern.holds_stop_of_mem_findAll`: what the checks say
  about the matches in a text
-/

namespace Timephrase

/-- A condition holds at a place of a text. -/
def Look.HoldsAt (l : Look) (c : Pattern.Cursor) : Prop := l.holds c.before c.rest.head? = true

namespace Pattern

/-- A condition that each step keeps is kept by several. -/
theorem Copies.keeps {step : Cursor → Cursor → List (Nat × Span) → Prop}
    {P : Cursor → Prop} {c d : Cursor} {gs : List (Nat × Span)}
    (hstep : ∀ c d gs, step c d gs → P c → P d) {n : Nat} (h : Copies step n c d gs) (hc : P c) :
    P d := by
  induction n generalizing c gs with
  | zero =>
    obtain ⟨rfl, -⟩ := h
    exact hc
  | succ n ih =>
    obtain ⟨e, hs, ks, h₁, h₂, -⟩ := h
    exact ih h₂ (hstep c e hs h₁ hc)

namespace Node

/-- Whether every way through a node starts with a condition. -/
def opens (l : Look) : Node → Bool
  | look l' => l = l'
  | group _ body => body.opens l
  | seq first _ => first.opens l
  | alt first second => first.opens l && second.opens l
  | times body least _ _ => 0 < least && body.opens l
  | _ => false

/-- Whether a condition holds wherever a way through a node ends, provided that it holds where the
way starts if it is `given`. -/
def closes (l : Look) : Bool → Node → Bool
  | given, empty => given
  | given, look l' => given || l = l'
  | given, group _ body => body.closes l given
  | given, seq first second => second.closes l (first.closes l given)
  | given, alt first second => first.closes l given && second.closes l given
  | given, times body _ _ _ => given && body.closes l true
  | _, _ => false

variable {l : Look} {node : Node} {c d : Cursor} {gs : List (Nat × Span)}

theorem Way.holdsAt_start (h : node.Way c d gs) (hopens : node.opens l = true) : l.HoldsAt c := by
  induction node generalizing c d gs with
  | look l' =>
    obtain ⟨hl, -, -⟩ := h
    have hll : l = l' := by simpa [opens] using hopens
    exact hll ▸ hl
  | group index body ih =>
    obtain ⟨hs, h, -⟩ := h
    exact ih h hopens
  | seq first second ih _ =>
    obtain ⟨e, hs, ks, h, -, -⟩ := h
    exact ih h hopens
  | alt first second ih₁ ih₂ =>
    simp only [opens, Bool.and_eq_true] at hopens
    rcases h with h | h
    · exact ih₁ h hopens.1
    · exact ih₂ h hopens.2
  | times body least greatest greedy ih =>
    simp only [opens, Bool.and_eq_true, decide_eq_true_eq] at hopens
    obtain ⟨n, hn, -, h⟩ := h
    -- The body is done at least once, and the condition holds where its first copy starts.
    obtain ⟨n, rfl⟩ := Nat.exists_eq_succ_of_ne_zero (Nat.ne_of_gt (Nat.lt_of_lt_of_le hopens.1 hn))
    obtain ⟨e, hs, ks, h, -, -⟩ := h
    exact ih h hopens.2
  | _ => cases hopens

theorem Way.holdsAt_stop {given : Bool} (h : node.Way c d gs) (hcloses : node.closes l given = true)
    (hc : given = true → l.HoldsAt c) : l.HoldsAt d := by
  induction node generalizing c d gs given with
  | empty =>
    obtain ⟨rfl, -⟩ := h
    exact hc hcloses
  | look l' =>
    obtain ⟨hl, rfl, -⟩ := h
    rcases Bool.or_eq_true_iff.mp hcloses with hgiven | hll
    · exact hc hgiven
    · exact of_decide_eq_true hll ▸ hl
  | group index body ih =>
    obtain ⟨hs, h, -⟩ := h
    exact ih h hcloses hc
  | seq first second ih₁ ih₂ =>
    obtain ⟨e, hs, ks, h₁, h₂, -⟩ := h
    -- What the first part ends with is given to the second one.
    exact ih₂ h₂ hcloses fun hfirst => ih₁ h₁ hfirst hc
  | alt first second ih₁ ih₂ =>
    simp only [closes, Bool.and_eq_true] at hcloses
    rcases h with h | h
    · exact ih₁ h hcloses.1 hc
    · exact ih₂ h hcloses.2 hc
  | times body least greatest greedy ih =>
    simp only [closes, Bool.and_eq_true] at hcloses
    obtain ⟨n, -, -, h⟩ := h
    -- Without a copy the way stays where it is, so that the condition has to be given.
    exact h.keeps (fun _ _ _ hbody hstart => ih hbody hcloses.2 fun _ => hstart) (hc hcloses.1)
  | _ => cases hcloses

end Node

/-! ## In a text -/

variable {p : Pattern} {l : Look} {text : String} {m : Match}

/-- **A match starts at a place where a condition holds** if the pattern opens with it. -/
theorem holds_start_of_mem_findAll (hopens : p.node.opens l = true) (h : m ∈ p.findAll text) :
    ∃ u v, text.toList = u ++ v ∧ Utf8.size u = m.span.start ∧ l.HoldsAt (.between u v) := by
  obtain ⟨u, v, ht, hm⟩ := exists_place_of_mem_findAll h
  obtain ⟨d, hd, hspan⟩ := way_of_matchAt? hm
  exact ⟨u, v, ht, by rw [hspan]; rfl, hd.holdsAt_start hopens⟩

/-- **A match stops at a place where a condition holds** if the pattern closes with it. -/
theorem holds_stop_of_mem_findAll (hcloses : p.node.closes l false = true)
    (h : m ∈ p.findAll text) :
    ∃ u v, text.toList = u ++ v ∧ Utf8.size u = m.span.stop ∧ l.HoldsAt (.between u v) := by
  obtain ⟨u, v, ht, hm⟩ := exists_place_of_mem_findAll h
  obtain ⟨d, hd, hspan⟩ := way_of_matchAt? hm
  obtain ⟨w, hw⟩ := hd.exists_reads
  have hrest : v = w ++ d.rest := hw.rest_eq
  refine ⟨u ++ w, d.rest, by rw [ht, hrest, List.append_assoc], ?_, ?_⟩
  · rw [hspan, hw.offset_eq, Utf8.size_append]
    rfl
  · rw [← hw.eq_between]
    exact hd.holdsAt_stop hcloses nofun

end Pattern

end Timephrase
