import Timephrase.Proofs.Pattern.Order

/-!
# Changes of characters that a pattern does not see

Characters may be replaced by others of the same size and the same kind.  A pattern whose sets hold a
character whenever they hold the one put in its place finds the same in both texts: the ways through
it are the same, place by place, and so are its matches.

## Main definitions

* `Recoding`: a change of characters that no condition on a place sees
* `Cursor.map`: the place in the changed text
* `Node.IsBlindTo`: no set of a node sees a change
* `Node.allSets`: whether all sets of a node pass a check

## Main results

* `Node.ways_map`: the ways through a node
* `Pattern.matchAt?_map`, `Pattern.findAll_map`: the match at a place, and those in a text
-/

namespace Timephrase

/-- A change of characters that moves none, and that no condition on a place sees. -/
structure Recoding (f : Char → Char) : Prop where
  utf8Size : ∀ c, (f c).utf8Size = c.utf8Size
  isWord : ∀ c, Word.isWord (f c) = Word.isWord c
  isAsciiWord : ∀ c, Word.isAsciiWord (f c) = Word.isAsciiWord c
  lineEnd : ∀ c d, d = '\n' ∨ d = '\r' → (f c = d ↔ c = d)

namespace Recoding

variable {f : Char → Char} (hf : Recoding f)
include hf

/-- A condition on a place holds in the changed text if it does in the text. -/
theorem holds (l : Look) (before after : Option Char) :
    l.holds (before.map f) (after.map f) = l.holds before after := by
  -- Conditions ask for the ends of lines and for kinds of characters, and neither changes.
  have hbeq : ∀ d, d = '\n' ∨ d = '\r' → ∀ c, (f c == d) = (c == d) := by
    intro d hd c
    rw [Bool.eq_iff_iff, beq_iff_eq, beq_iff_eq, hf.lineEnd c d hd]
  have hsome : ∀ d, d = '\n' ∨ d = '\r' → ∀ c? : Option Char,
      (c?.map f == some d) = (c? == some d) := by
    intro d hd c?
    cases c? with
    | none => rfl
    | some c => exact hbeq d hd c
  have hfeed : '\n' = '\n' ∨ '\n' = '\r' := Or.inl rfl
  have hreturn : '\r' = '\n' ∨ '\r' = '\r' := Or.inr rfl
  cases l with
  | textStart => rw [Look.holds, Look.holds, Option.isNone_map]
  | textEnd => rw [Look.holds, Look.holds, Option.isNone_map]
  | lineStart => simp only [Look.holds, Option.all_map, hbeq _ hfeed]
  | lineEnd => simp only [Look.holds, Option.all_map, hbeq _ hfeed]
  | lineStartAny =>
    simp only [Look.holds, Option.all_map, bne, hbeq _ hfeed, hsome _ hfeed, hsome _ hreturn]
  | lineEndAny =>
    simp only [Look.holds, Option.all_map, bne, hbeq _ hreturn, hsome _ hfeed, hsome _ hreturn]
  | word edge ascii =>
    cases ascii with
    | true => simp only [Look.holds, if_true, Option.any_map, hf.isAsciiWord]
    | false => simp only [Look.holds, if_false, Bool.false_eq_true, Option.any_map, hf.isWord]

theorem size_map (cs : List Char) : Utf8.size (cs.map f) = Utf8.size cs := by
  induction cs with
  | nil => rfl
  | cons c cs ih => rw [List.map_cons, Utf8.size_cons, Utf8.size_cons, hf.utf8Size, ih]

end Recoding

namespace Pattern

variable {f : Char → Char}

/-! ## Places -/

namespace Cursor

/-- The same place in the changed text. -/
def map (f : Char → Char) (c : Cursor) : Cursor := ⟨c.offset, c.before.map f, c.rest.map f⟩

theorem map_next (hf : Recoding f) (offset : Nat) (ch : Char) (rest : List Char) :
    (next offset ch rest).map f = next offset (f ch) (rest.map f) := by
  rw [next, next, hf.utf8Size]
  rfl

theorem map_between (hf : Recoding f) (u v : List Char) :
    (between u v).map f = between (u.map f) (v.map f) := by
  rw [between, between, map, hf.size_map, List.getLast?_map]

theorem onward_map (hf : Recoding f) (offset : Nat) (before : Option Char) (rest : List Char) :
    onward offset (before.map f) (rest.map f) = (onward offset before rest).map (map f) := by
  induction rest generalizing offset before with
  | nil => rfl
  | cons ch rest ih =>
    have htail := ih (offset + ch.utf8Size) (some ch)
    rw [Option.map_some] at htail
    rw [List.map_cons, onward, onward, List.map_cons, hf.utf8Size, htail]
    rfl

theorem run_map (hf : Recoding f) {s : CharSet} (hs : ∀ ch, s.mem (f ch) = s.mem ch)
    (limit offset : Nat) (before : Option Char) (rest : List Char) :
    run s limit offset (before.map f) (rest.map f) =
      (run s limit offset before rest).map (map f) := by
  induction limit generalizing offset before rest with
  | zero => rfl
  | succ limit ih =>
    cases rest with
    | nil => rfl
    | cons ch rest =>
      have htail := ih (offset + ch.utf8Size) (some ch) rest
      rw [Option.map_some] at htail
      rw [List.map_cons, run, run, hs, hf.utf8Size, htail, List.map_cons]
      split
      · rfl
      · rfl

end Cursor

/-! ## Nodes -/

namespace Node

/-- No set of a node sees the change of a character. -/
def IsBlindTo (f : Char → Char) : Node → Prop
  | set s => ∀ ch, s.mem (f ch) = s.mem ch
  | run s _ _ _ => ∀ ch, s.mem (f ch) = s.mem ch
  | group _ body => body.IsBlindTo f
  | seq first second => first.IsBlindTo f ∧ second.IsBlindTo f
  | alt first second => first.IsBlindTo f ∧ second.IsBlindTo f
  | times body _ _ _ => body.IsBlindTo f
  | _ => True

/-- Whether all sets of a node pass a check. -/
def allSets (check : CharSet → Bool) : Node → Bool
  | set s => check s
  | run s _ _ _ => check s
  | group _ body => body.allSets check
  | seq first second => first.allSets check && second.allSets check
  | alt first second => first.allSets check && second.allSets check
  | times body _ _ _ => body.allSets check
  | _ => true

/-- Sets that pass a check pass a weaker one. -/
theorem allSets_mono {check check' : CharSet → Bool} (hcheck : ∀ s, check s = true → check' s = true)
    {node : Node} (h : node.allSets check = true) : node.allSets check' = true := by
  induction node with
  | set s => exact hcheck s h
  | run s _ _ _ => exact hcheck s h
  | group index body ih => exact ih h
  | seq first second ih₁ ih₂ =>
    obtain ⟨h₁, h₂⟩ := Bool.and_eq_true_iff.mp h
    exact Bool.and_eq_true_iff.mpr ⟨ih₁ h₁, ih₂ h₂⟩
  | alt first second ih₁ ih₂ =>
    obtain ⟨h₁, h₂⟩ := Bool.and_eq_true_iff.mp h
    exact Bool.and_eq_true_iff.mpr ⟨ih₁ h₁, ih₂ h₂⟩
  | times body least greatest greedy ih => exact ih h
  | _ => rfl

theorem isBlindTo_of_allSets {check : CharSet → Bool}
    (hcheck : ∀ s, check s = true → ∀ ch, s.mem (f ch) = s.mem ch) {node : Node}
    (h : node.allSets check = true) : node.IsBlindTo f := by
  induction node with
  | set s => exact hcheck s h
  | run s _ _ _ => exact hcheck s h
  | group index body ih => exact ih h
  | seq first second ih₁ ih₂ =>
    obtain ⟨h₁, h₂⟩ := Bool.and_eq_true_iff.mp h
    exact ⟨ih₁ h₁, ih₂ h₂⟩
  | alt first second ih₁ ih₂ =>
    obtain ⟨h₁, h₂⟩ := Bool.and_eq_true_iff.mp h
    exact ⟨ih₁ h₁, ih₂ h₂⟩
  | times body least greatest greedy ih => exact ih h
  | _ => trivial

/-- **The ways through a node** that does not see a change are the same in the changed text. -/
theorem ways_map (hf : Recoding f) {node : Node} (h : node.IsBlindTo f) (c : Cursor) :
    node.ways (c.map f) = (node.ways c).map fun w => (w.1.map f, w.2) := by
  induction node generalizing c with
  | empty => rfl
  | set s =>
    cases hrest : c.rest with
    | nil => simp [ways, Cursor.map, hrest]
    | cons ch rest =>
      simp only [ways, Cursor.map, hrest, List.map_cons, h ch]
      split
      · rw [← Cursor.map_next hf]
        rfl
      · rfl
  | run s least greatest greedy =>
    have hplaces : ((Cursor.run s (greatest.getD (c.map f).rest.length) (c.map f).offset
        (c.map f).before (c.map f).rest).drop least) =
          ((Cursor.run s (greatest.getD c.rest.length) c.offset c.before c.rest).drop least).map
            (Cursor.map f) := by
      rw [List.map_drop, ← Cursor.run_map hf h, Cursor.map, List.length_map]
    rw [ways, ways, hplaces]
    cases greedy with
    | true =>
      rw [if_pos rfl, if_pos rfl, ← List.map_reverse, List.map_map, List.map_map]
      rfl
    | false =>
      rw [if_neg Bool.false_ne_true, if_neg Bool.false_ne_true, List.map_map, List.map_map]
      rfl
  | look l =>
    have hhead : (c.map f).rest.head? = c.rest.head?.map f := List.head?_map
    -- A condition on a place looks at the characters themselves, and not through a set.
    rw [ways, ways, hhead, Cursor.map, hf.holds]
    split
    · rfl
    · rfl
  | group index body ih =>
    rw [ways, ways, ih h, List.map_map, List.map_map]
    rfl
  | seq first second ih₁ ih₂ =>
    obtain ⟨h₁, h₂⟩ := h
    rw [ways, ways, ih₁ h₁, List.flatMap_map, List.map_flatMap]
    refine congrArg (List.flatMap · _) (funext fun w => ?_)
    rw [ih₂ h₂, List.map_map, List.map_map]
    rfl
  | alt first second ih₁ ih₂ =>
    obtain ⟨h₁, h₂⟩ := h
    rw [ways, ways, ih₁ h₁, ih₂ h₂, List.map_append]
  | times body least greatest greedy ih =>
    cases greedy with
    | true => simp [ways, ih h]
    | false => simp [ways, ih h]

end Node

/-! ## Matches -/

section Matches

variable (hf : Recoding f) {node : Node} (hloop : node.isLoopFree = true) (hblind : node.IsBlindTo f)
include hf hloop hblind

/-- **The match at a place** is the one at that place of the changed text. -/
theorem matchAt?_map (c : Cursor) : matchAt? node (c.map f) = matchAt? node c := by
  rw [matchAt?_eq_head? hloop, matchAt?_eq_head? hloop, Node.ways_map hf hblind, List.head?_map,
    Option.map_map]
  rfl

theorem matchesFrom_map (floor : Option Nat) (cs : List Cursor) :
    matchesFrom node floor (cs.map (Cursor.map f)) = matchesFrom node floor cs := by
  induction cs generalizing floor with
  | nil => rfl
  | cons c cs ih =>
    have hoffset : (c.map f).offset = c.offset := rfl
    simp only [List.map_cons, matchesFrom, matchAt?_map hf hloop hblind, hoffset, ih]

end Matches

/-- **What a pattern finds** that does not see a change is the same in the changed text. -/
theorem findAll_map (hf : Recoding f) {p : Pattern} (hloop : p.node.isLoopFree = true)
    (hblind : p.node.IsBlindTo f) (text : String) :
    p.findAll (text.map f) = p.findAll text := by
  rw [findAll, findAll, Cursor.all, String.toList_map]
  have hplaces := Cursor.onward_map hf 0 none text.toList
  rw [Option.map_none] at hplaces
  rw [hplaces, matchesFrom_map hf hloop hblind]
  rfl

end Pattern

end Timephrase
