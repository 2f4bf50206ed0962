import Timephrase.Proofs.Pattern.Caseless

/-!
# Outlines of texts

The outline of a text has its letters small and a zero for each of its digits.  A pattern whose sets
hold all digits or none, and both cases of an ASCII letter or neither, sees no more of a text than
its outline.

## Main definitions

* `Ascii.outline`: the outline of a character
* `Node.seesOutline`: whether no set of a node sees more than outlines

## Main results

* `recoding_outline`: outlines move no character, and no condition on a place sees them
* `Pattern.matchAt?_outline`: what such a node finds in a text it finds in the outline
-/

namespace Timephrase

namespace Ascii

/-- The outline of a character: a zero for a digit, and the small letter for an ASCII letter. -/
def outline (c : Char) : Char := if c.isDigit then '0' else c.toLower

variable {c : Char}

theorem outline_of_isDigit (h : c.isDigit = true) : outline c = '0' := if_pos h

theorem outline_of_not_isDigit (h : c.isDigit = false) : outline c = c.toLower := by
  rw [outline, h, if_neg Bool.false_ne_true]

/-- Texts of digits are told apart by their lengths alone in outline. -/
theorem map_outline_of_isDigit {cs : List Char} (h : ∀ c ∈ cs, c.isDigit = true) :
    cs.map outline = List.replicate cs.length '0' :=
  List.map_eq_replicate_iff.mpr fun c hc => outline_of_isDigit (h c hc)

/-- What is the outline of every digit and of the text in small letters is that of a text. -/
theorem outline_induction {P : Char → Char → Prop} (hdigit : ∀ c, c.isDigit = true → P c '0')
    (hother : ∀ c, P c c.toLower) (c : Char) : P c (outline c) := by
  cases h : c.isDigit with
  | true => exact outline_of_isDigit h ▸ hdigit c h
  | false => exact outline_of_not_isDigit h ▸ hother c

end Ascii

/-- Outlines stand where the characters did, and are of the same kind. -/
theorem recoding_outline : Recoding Ascii.outline where
  utf8Size c := by
    refine Ascii.outline_induction (P := fun c d => d.utf8Size = c.utf8Size) (fun c h => ?_)
      Ascii.utf8Size_toLower c
    have hbounds := Ascii.isDigit_iff.mp h
    have hone : c.utf8Size = 1 :=
      Char.utf8Size_eq_one_iff.mpr (UInt32.le_iff_toNat_le.mpr (Nat.le_trans hbounds.2 (by decide)))
    rw [hone]
    rfl
  isWord c := by
    refine Ascii.outline_induction (P := fun c d => Word.isWord d = Word.isWord c) (fun c h => ?_)
      Word.isWord_toLower c
    -- Digits are word characters of ASCII, so that the tables for other scripts do not matter.
    have hbounds := Ascii.isDigit_iff.mp h
    rw [Word.isWord, Word.isWord, if_pos (by decide), if_pos (by omega),
      Word.isAsciiWord_iff.mpr (Or.inl hbounds)]
    rfl
  isAsciiWord c := by
    refine Ascii.outline_induction (P := fun c d => Word.isAsciiWord d = Word.isAsciiWord c)
      (fun c h => ?_) Word.isAsciiWord_toLower c
    rw [Word.isAsciiWord_iff.mpr (Or.inl (Ascii.isDigit_iff.mp h))]
    rfl
  lineEnd c d hd := by
    have hnot : d.isDigit = false := by
      rcases hd with rfl | rfl
      · rfl
      · rfl
    cases h : c.isDigit with
    | true =>
      -- Neither a digit nor the zero for it ends a line.
      rw [Ascii.outline_of_isDigit h]
      refine iff_of_false ?_ ?_
      · rcases hd with rfl | rfl
        · decide
        · decide
      · rintro rfl
        rw [hnot] at h
        cases h
    | false =>
      rw [Ascii.outline_of_not_isDigit h]
      exact recoding_toLower.lineEnd c d hd

/-- Whether ranges have all digits or none. -/
def Ranges.ignoresDigits (r : Ranges) : Bool :=
  (List.range 10).all fun i => r.contains (0x30 + i) == r.contains 0x30

/-- Whether a set holds all digits or none, and both cases of an ASCII letter or neither. -/
def CharSet.seesOutline (s : CharSet) : Bool := s.ranges.ignoresDigits && s.ranges.ignoresCase

theorem CharSet.mem_outline {s : CharSet} (h : s.seesOutline = true) (c : Char) :
    s.mem (Ascii.outline c) = s.mem c := by
  obtain ⟨hdigits, hcase⟩ := Bool.and_eq_true_iff.mp h
  refine Ascii.outline_induction (P := fun c d => s.mem d = s.mem c) (fun c hc => ?_)
    (CharSet.mem_toLower hcase) c
  obtain ⟨hlow, hhigh⟩ := Ascii.isDigit_iff.mp hc
  obtain ⟨i, hi⟩ := Nat.exists_eq_add_of_le hlow
  have hsame := beq_iff_eq.mp (List.all_eq_true.mp hdigits i (List.mem_range.mpr (by omega)))
  rw [← hi] at hsame
  exact hsame.symm

namespace Pattern

/-- Whether no set of a node sees more than outlines. -/
def Node.seesOutline (node : Node) : Bool := node.allSets CharSet.seesOutline

/-- A node that sees outlines alone does not tell the cases of a letter apart. -/
theorem Node.ignoresCase_of_seesOutline {node : Node} (h : node.seesOutline = true) :
    node.ignoresCase = true :=
  allSets_mono (fun _ hsees => (Bool.and_eq_true_iff.mp hsees).2) h

theorem Node.isBlindTo_outline {node : Node} (h : node.seesOutline = true) :
    node.IsBlindTo Ascii.outline :=
  isBlindTo_of_allSets (fun _ => CharSet.mem_outline) h

/-- **The match at a place** of a text is the one at that place of the outline. -/
theorem matchAt?_outline {node : Node} (hloop : node.isLoopFree = true)
    (hsees : node.seesOutline = true) (u v : List Char) :
    matchAt? node (.between (u.map Ascii.outline) (v.map Ascii.outline)) =
      matchAt? node (.between u v) := by
  rw [← Cursor.map_between recoding_outline]
  exact matchAt?_map recoding_outline hloop (Node.isBlindTo_outline hsees) _

end Pattern

end Timephrase
