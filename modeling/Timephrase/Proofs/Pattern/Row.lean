import Timephrase.Pattern.Compose
import Timephrase.Proofs.Pattern.Order

/-!
# Rows and choices

Ways through a row of nodes lead through one node after another, and ways through a choice through
one of its branches.

## Main definitions

* `Pattern.Node.Row`: the ways through nodes one after another
* `Pattern.Node.Spells`: every way through a node reads a word of some kind
* `Pattern.Node.firstOfRow`: the first way through them after which something succeeds

## Main results

* `Pattern.Node.way_ofItems`, `Pattern.Node.way_ofBranches`: the ways through rows and choices
* `Pattern.Node.first_ofItems`: the first way through a row
-/

namespace Timephrase.Pattern.Node

/-- The ways through nodes one after another. -/
def Row : List Node → Cursor → Cursor → List (Nat × Span) → Prop
  | [], c, d, gs => d = c ∧ gs = []
  | node :: nodes, c, d, gs => ∃ e hs ks, node.Way c e hs ∧ Row nodes e d ks ∧ gs = ks ++ hs

variable {node : Node} {nodes nodes' : List Node} {c d : Cursor} {gs : List (Nat × Span)}

theorem Row.exists_reads (h : Row nodes c d gs) : ∃ w, c.Reads w d := by
  induction nodes generalizing c gs with
  | nil =>
    obtain ⟨rfl, -⟩ := h
    exact ⟨[], .refl _⟩
  | cons node nodes ih =>
    obtain ⟨e, hs, ks, h₁, h₂, -⟩ := h
    obtain ⟨w, hw⟩ := h₁.exists_reads
    obtain ⟨w', hw'⟩ := ih h₂
    exact ⟨w ++ w', hw.trans hw'⟩

theorem row_append :
    Row (nodes ++ nodes') c d gs ↔
      ∃ e hs ks, Row nodes c e hs ∧ Row nodes' e d ks ∧ gs = ks ++ hs := by
  induction nodes generalizing c gs with
  | nil =>
    constructor
    · intro h
      exact ⟨c, [], gs, ⟨rfl, rfl⟩, h, by simp⟩
    · rintro ⟨e, hs, ks, ⟨rfl, rfl⟩, h, rfl⟩
      simpa using h
  | cons node nodes ih =>
    constructor
    · rintro ⟨e, hs, ks, h, hrow, rfl⟩
      obtain ⟨e', hs', ks', h₁, h₂, rfl⟩ := ih.mp hrow
      exact ⟨e', hs' ++ hs, ks', ⟨e, hs, hs', h, h₁, rfl⟩, h₂, by simp⟩
    · rintro ⟨e', hs', ks', ⟨e, hs, hs'', h, h₁, rfl⟩, h₂, rfl⟩
      exact ⟨e, hs, ks' ++ hs'', h, ih.mpr ⟨e', hs'', ks', h₁, h₂, rfl⟩, by simp⟩

theorem row_singleton : Row [node] c d gs ↔ node.Way c d gs := by
  constructor
  · rintro ⟨e, hs, ks, h, ⟨rfl, rfl⟩, rfl⟩
    exact h
  · intro h
    exact ⟨d, gs, [], h, ⟨rfl, rfl⟩, rfl⟩

/-- **The ways through a row** lead through one node after another. -/
theorem way_ofItems : (ofItems nodes).Way c d gs ↔ Row nodes c d gs := by
  cases nodes with
  | nil => exact Iff.rfl
  | cons node nodes =>
    rw [ofItems]
    -- A row is nested to the left, so that the first two nodes become one at each step.
    induction nodes generalizing node with
    | nil => exact row_singleton.symm
    | cons next nodes ih =>
      rw [List.foldl_cons, ih]
      constructor
      · rintro ⟨e, hs, ks, ⟨e', hs', ks', h₁, h₂, rfl⟩, h₃, rfl⟩
        exact ⟨e', hs', ks ++ ks', h₁, ⟨e, ks', ks, h₂, h₃, rfl⟩, by simp⟩
      · rintro ⟨e', hs', ks'', h₁, ⟨e, ks', ks, h₂, h₃, rfl⟩, rfl⟩
        exact ⟨e, ks' ++ hs', ks, ⟨e', hs', ks', h₁, h₂, rfl⟩, h₃, by simp⟩

/-- **The ways through a choice** lead through one of its branches. -/
theorem way_ofBranches : (ofBranches nodes).Way c d gs ↔ ∃ node ∈ nodes, node.Way c d gs := by
  induction nodes with
  | nil =>
    constructor
    · rintro ⟨ch, hch, -⟩
      cases hch
    · rintro ⟨node, h, -⟩
      cases h
  | cons node nodes ih =>
    cases nodes with
    | nil => simp [ofBranches]
    | cons node' nodes =>
      -- A choice is nested to the right, and its last branch stands alone.
      have halt : (ofBranches (node :: node' :: nodes)).Way c d gs ↔
          node.Way c d gs ∨ (ofBranches (node' :: nodes)).Way c d gs := Iff.rfl
      rw [halt, ih]
      simp only [List.mem_cons, exists_eq_or_imp]

/-- A part that may be left out is left out or gone through once. -/
theorem way_optional {body : Node} {greedy : Bool} :
    (times body 0 (some 1) greedy).Way c d gs ↔ (d = c ∧ gs = []) ∨ body.Way c d gs := by
  constructor
  · rintro ⟨n, -, hn, h⟩
    have hn : n ≤ 1 := hn 1 rfl
    match n, hn, h with
    | 0, _, h => exact Or.inl h
    | 1, _, ⟨e, hs, ks, h, ⟨hd, hks⟩, hgs⟩ =>
      subst hd hks hgs
      exact Or.inr h
  · rintro (h | h)
    · exact ⟨0, Nat.le_refl _, by simp, h⟩
    · exact ⟨1, Nat.zero_le _, by simp, d, gs, [], h, ⟨rfl, rfl⟩, rfl⟩

/-! ## Words -/

/-- Every way through a node reads a word of some kind. -/
def Spells (node : Node) (kind : List Char → Prop) : Prop :=
  ∀ ⦃c d gs⦄, node.Way c d gs → ∃ w, kind w ∧ c.Reads w d

theorem spells_run {s : CharSet} {least most : Nat} {greedy : Bool} :
    (run s least (some most) greedy).Spells fun w =>
      (∀ ch ∈ w, s.mem ch = true) ∧ least ≤ w.length ∧ w.length ≤ max least most := by
  rintro c d gs ⟨w, hmem, hleast, hmost, hw, -⟩
  exact ⟨w, ⟨hmem, hleast, hmost most rfl⟩, hw⟩

theorem Spells.group {kind : List Char → Prop} (h : node.Spells kind) (index : Nat) :
    (group index node).Spells kind := by
  rintro c d gs ⟨hs, hway, -⟩
  exact h hway

theorem Spells.optional {kind : List Char → Prop} {greedy : Bool} (h : node.Spells kind)
    (hnil : kind []) : (times node 0 (some 1) greedy).Spells kind := by
  intro c d gs hway
  rcases way_optional.mp hway with ⟨rfl, -⟩ | hway
  · exact ⟨[], hnil, .refl _⟩
  · exact h hway

/-! ## The first way -/

section First

variable {α : Type} {k : Cursor → List (Nat × Span) → Option α}

/-- What is found after the first way through nodes one after another after which something is. -/
def firstOfRow (k : Cursor → List (Nat × Span) → Option α) :
    List Node → Cursor → List (Nat × Span) → Option α
  | [] => k
  | node :: nodes => node.first (firstOfRow k nodes)

theorem first_ofItems : (ofItems nodes).first k = firstOfRow k nodes := by
  cases nodes with
  | nil =>
    funext c gs
    exact first_empty
  | cons node nodes =>
    rw [ofItems]
    -- As for the ways: the first two nodes become one at each step.
    induction nodes generalizing node with
    | nil => rfl
    | cons next nodes ih =>
      rw [List.foldl_cons, ih]
      funext c gs
      exact first_seq node next

end First

end Timephrase.Pattern.Node
