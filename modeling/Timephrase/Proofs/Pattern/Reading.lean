import Timephrase.Rule

/-!
# Checking what a pattern is read as

Whether the characters of a written pattern are read as a given node can be computed, and a rule
whose source passes the check is what its draft says, with that node.

## Main definitions

* `Pattern.writes`: whether characters write a node with the given names of groups

## Main results

* `Pattern.read_of_writes`: the pattern that is read
* `Rule.Draft.finish_of_writes`: the rule that a draft makes
-/

namespace Timephrase

namespace Pattern

/-- Whether some characters write a node, with the given names of groups. -/
def writes (cs : List Char) (anyCase unicode : Bool) (node : Node) (names : List (String × Nat)) :
    Bool :=
  match Reader.readAlternatives (2 * cs.length + 2) ⟨.initial anyCase unicode, 0, []⟩ cs with
  | .ok (items, scope, rest) =>
    rest.isEmpty && decide ((Reader.choiceItem items).depth ≤ Reader.greatestDepth) &&
      !node.isTooLarge && (Reader.choiceItem items).node == node && scope.names == names
  | .error _ => false

variable {source : String} {anyCase unicode : Bool} {node : Node} {names : List (String × Nat)}

theorem read_of_writes (h : writes source.toList anyCase unicode node names = true) :
    read source anyCase unicode = .ok ⟨source, node, names⟩ := by
  rw [writes] at h
  rw [read]
  cases hread : Reader.readAlternatives (2 * source.toList.length + 2)
      ⟨.initial anyCase unicode, 0, []⟩ source.toList with
  | error fault =>
    rw [hread] at h
    cases h
  | ok result =>
    obtain ⟨items, scope, rest⟩ := result
    simp only [hread, Bool.and_eq_true, decide_eq_true_eq, Bool.not_eq_true', beq_iff_eq] at h
    obtain ⟨⟨⟨⟨hrest, hdepth⟩, hsize⟩, rfl⟩, rfl⟩ := h
    simp [hrest, Nat.not_lt.mpr hdepth, hsize, bind, Except.bind]

end Pattern

/-- **The rule that a draft makes** if its source writes a node. -/
theorem Rule.Draft.finish_of_writes {d : Rule.Draft} {node : Pattern.Node}
    {names : List (String × Nat)} (meaning : Meaning)
    (h : Pattern.writes d.source.toList d.anyCase d.unicode node names = true) :
    d.finish meaning = .ok ⟨d.name, ⟨d.source, node, names⟩, meaning, d.features, d.enabled⟩ := by
  rw [finish, Pattern.read_of_writes h]

end Timephrase
