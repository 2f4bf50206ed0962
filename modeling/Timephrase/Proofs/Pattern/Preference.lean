import Timephrase.Proofs.Pattern.Row

/-!
# Which branch is taken

A choice takes the first of its branches after which the rest of the pattern can be matched.  So the
branches before the one that is taken have failed, each at the place where the choice stands.

## Main results

* `Pattern.Node.exists_of_firstOfRow_append`: the place where the second half of a row succeeds
* `Pattern.Node.first_ofBranches`: a choice tries its branches one after another
* `Pattern.Node.exists_of_first_ofBranches`: the branch that is taken, and those that failed before
-/

namespace Timephrase.Pattern.Node

variable {α : Type} {k : Cursor → List (Nat × Span) → Option α} {node : Node}
  {nodes nodes' : List Node} {c : Cursor} {gs : List (Nat × Span)} {a : α}

theorem firstOfRow_append :
    firstOfRow k (nodes ++ nodes') = firstOfRow (firstOfRow k nodes') nodes := by
  induction nodes with
  | nil => rfl
  | cons node nodes ih =>
    show node.first (firstOfRow k (nodes ++ nodes')) = _
    rw [ih]
    rfl

/-- What is found after a node is found at a place to which the node reads. -/
theorem exists_of_first (h : node.first k c gs = some a) :
    ∃ w d hs, c.Reads w d ∧ k d hs = some a := by
  obtain ⟨⟨d, ks⟩, hway, hfound⟩ := List.exists_of_findSome?_eq_some h
  obtain ⟨w, hw⟩ := exists_reads_of_mem_ways hway
  exact ⟨w, d, ks ++ gs, hw, hfound⟩

/-- **The place where the second half of a row succeeds**, somewhere after the first half. -/
theorem exists_of_firstOfRow_append (h : firstOfRow k (nodes ++ nodes') c gs = some a) :
    ∃ w d hs, c.Reads w d ∧ firstOfRow k nodes' d hs = some a := by
  rw [firstOfRow_append] at h
  -- On the nodes of the first half, each of which reads some way on.
  induction nodes generalizing c gs with
  | nil => exact ⟨[], c, gs, .refl c, h⟩
  | cons node nodes ih =>
    obtain ⟨w, e, hs, hw, hrest⟩ := exists_of_first h
    obtain ⟨w', d, ks, hw', hfound⟩ := ih hrest
    exact ⟨w ++ w', d, ks, hw.trans hw', hfound⟩

/-- **A choice tries its branches** one after another. -/
theorem first_ofBranches (k : Cursor → List (Nat × Span) → Option α) (nodes : List Node)
    (c : Cursor) (gs : List (Nat × Span)) :
    (ofBranches nodes).first k c gs = nodes.findSome? fun node => node.first k c gs := by
  have hcons : ∀ (node : Node) (nodes : List Node), (node :: nodes).findSome?
      (fun node => node.first k c gs) =
        (node.first k c gs).or (nodes.findSome? fun node => node.first k c gs) := by
    intro node nodes
    rw [List.findSome?_cons]
    cases node.first k c gs <;> rfl
  induction nodes with
  | nil =>
    rw [ofBranches, first_set]
    cases c.rest <;> rfl
  | cons node nodes ih =>
    cases nodes with
    | nil => rw [ofBranches, hcons, List.findSome?_nil, Option.or_none]
    | cons node' nodes =>
      rw [ofBranches, first_alt, ih, ← hcons]
      exact List.cons_ne_nil node' nodes

/-- **The branch that is taken** is the first one after which something is found. -/
theorem exists_of_first_ofBranches (h : (ofBranches nodes).first k c gs = some a) :
    ∃ before node after, nodes = before ++ node :: after ∧ node.first k c gs = some a ∧
      ∀ node' ∈ before, node'.first k c gs = none := by
  rw [first_ofBranches] at h
  obtain ⟨before, node, after, hnodes, hfound, hfailed⟩ := List.findSome?_eq_some_iff.mp h
  exact ⟨before, node, after, hnodes, hfound, hfailed⟩

end Timephrase.Pattern.Node
