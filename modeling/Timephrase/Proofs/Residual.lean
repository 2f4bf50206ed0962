import Timephrase.Proofs.Pattern.Place
import Timephrase.Proofs.Text.Blank
import Timephrase.Proofs.Text.Utf8
import Timephrase.Residual

/-!
# What a residual text is

A residual text is made of bytes.  Where the spans start and stop between characters, none is cut,
and the residual text is made of the characters that no span covers.

## Main definitions

* `Span.Marks`: a span holds a piece of a text, from the start of a character to that of another
* `Residual.uncovered`: the characters that no span covers
* `Residual.StoodWhole`: a piece of what is left stood in the text, uncovered, between the same
  characters

## Main results

* `Residual.residual_congr`: spans that cover the same positions of a text leave the same
* `Residual.residual_of_perm`: the order of the spans does not matter
* `Residual.residual_eq`: spans that hold pieces of a text leave the other characters
* `Residual.filter_residual`: what a residual text has besides spaces
* `Residual.residual_residual`: without more spans a residual text stays as it is
* `Residual.residual_ne`: a span over a character that is not blank takes something away
-/

namespace Timephrase

namespace Residual

variable {spans spans' : List Span}

/-- Whether a position is covered is all that is asked of spans. -/
theorem any_covers_congr {i i' : Nat}
    (h : (∃ s ∈ spans, s.Covers i) ↔ ∃ s ∈ spans', s.Covers i') :
    (spans.any fun s => decide (s.Covers i)) = spans'.any fun s => decide (s.Covers i') := by
  rw [Bool.eq_iff_iff]
  simp only [List.any_eq_true, decide_eq_true_eq]
  exact h

/-- Bytes are kept or not by what covers their positions. -/
theorem kept_congr {i : Nat} {bs : List UInt8}
    (h : ∀ j, i ≤ j → j < i + bs.length →
      ((∃ s ∈ spans, s.Covers j) ↔ ∃ s ∈ spans', s.Covers j)) :
    kept spans i bs = kept spans' i bs := by
  induction bs generalizing i with
  | nil => rfl
  | cons b bs ih =>
    have hhead := any_covers_congr (h i (Nat.le_refl i) (by simp))
    have htail : kept spans (i + 1) bs = kept spans' (i + 1) bs := by
      refine ih fun j hle hlt => h j (by omega) ?_
      rw [List.length_cons]
      omega
    rw [kept, kept, hhead, htail]

/-- **Spans that cover the same positions of a text** leave the same residual text. -/
theorem residual_congr {text : String}
    (h : ∀ j, j < (Utf8.encode text.toList).length →
      ((∃ s ∈ spans, s.Covers j) ↔ ∃ s ∈ spans', s.Covers j)) :
    residual text spans = residual text spans' := by
  rw [residual, residual, kept_congr fun j _ hlt => h j (by omega)]

/-- The order of the spans does not matter. -/
theorem residual_of_perm {text : String} (h : spans.Perm spans') :
    residual text spans = residual text spans' := by
  refine residual_congr fun _ _ => ⟨?_, ?_⟩
  · rintro ⟨s, hs, hcovers⟩
    exact ⟨s, h.mem_iff.mp hs, hcovers⟩
  · rintro ⟨s, hs, hcovers⟩
    exact ⟨s, h.mem_iff.mpr hs, hcovers⟩

end Residual

/-! ## Spans that hold pieces of a text -/

/-- A span holds the piece `w` of a text: it starts where `w` does and stops where `w` ends. -/
def Span.Marks (s : Span) (text : String) (w : List Char) : Prop :=
  ∃ u v, text.toList = u ++ w ++ v ∧ s.start = Utf8.size u ∧ s.stop = Utf8.size (u ++ w)

namespace Span.Marks

variable {s : Span} {text : String} {w u v : List Char} {c : Char} {i : Nat}

theorem start_le_stop (h : s.Marks text w) : s.start ≤ s.stop := by
  obtain ⟨u, v, -, hstart, hstop⟩ := h
  rw [hstart, hstop, Utf8.size_append]
  exact Nat.le_add_right _ _

theorem stop_le (h : s.Marks text w) : s.stop ≤ Utf8.size text.toList := by
  obtain ⟨u, v, ht, -, hstop⟩ := h
  rw [hstop, ht, Utf8.size_append (u ++ w)]
  exact Nat.le_add_right _ _

/-- A place where some characters end is not inside another character. -/
theorem size_le_iff {u' v' : List Char} (ht : text.toList = u ++ c :: v)
    (ht' : text.toList = u' ++ v') (hi : Utf8.size u ≤ i) (hi' : i < Utf8.size u + c.utf8Size) :
    Utf8.size u' ≤ i ↔ Utf8.size u' ≤ Utf8.size u := by
  constructor
  · intro hle
    by_contra hlt
    obtain ⟨w', rfl⟩ :=
      Utf8.exists_of_append_cons_eq_append (ht.symm.trans ht') (Nat.lt_of_not_le hlt)
    rw [Utf8.size_append, Utf8.size_cons] at hle
    omega
  · exact fun hle => Nat.le_trans hle hi

/-- **No character is cut:** a span covers all bytes of one or none. -/
theorem covers_iff (h : s.Marks text w) (ht : text.toList = u ++ c :: v) (hi : Utf8.size u ≤ i)
    (hi' : i < Utf8.size u + c.utf8Size) : s.Covers i ↔ s.Covers (Utf8.size u) := by
  obtain ⟨u', v', ht', hstart, hstop⟩ := h
  have hfirst := size_le_iff ht (List.append_assoc u' w v' ▸ ht') hi hi'
  have hlast := size_le_iff ht ht' hi hi'
  rw [Span.Covers, Span.Covers, hstart, hstop]
  omega

end Span.Marks

namespace Residual

/-- The characters that no span covers, the first of them at position `i`. -/
def uncovered (spans : List Span) : Nat → List Char → List Char
  | _, [] => []
  | i, c :: cs =>
    if spans.any fun s => decide (s.Covers i) then uncovered spans (i + c.utf8Size) cs
    else c :: uncovered spans (i + c.utf8Size) cs

theorem uncovered_sublist (i : Nat) (cs : List Char) : (uncovered spans i cs).Sublist cs := by
  induction cs generalizing i with
  | nil => exact List.Sublist.refl _
  | cons c cs ih =>
    rw [uncovered]
    split
    · exact (ih _).cons c
    · exact (ih _).cons_cons c

/-- Characters are covered or not by what covers their first bytes, wherever they stand. -/
theorem uncovered_congr {i i' : Nat} {cs : List Char}
    (h : ∀ j, j < Utf8.size cs →
      ((∃ s ∈ spans, s.Covers (i + j)) ↔ ∃ s ∈ spans', s.Covers (i' + j))) :
    uncovered spans i cs = uncovered spans' i' cs := by
  induction cs generalizing i i' with
  | nil => rfl
  | cons c cs ih =>
    have hpos := c.utf8Size_pos
    rw [Utf8.size_cons] at h
    have hhead : (spans.any fun s => decide (s.Covers i)) =
        spans'.any fun s => decide (s.Covers i') := any_covers_congr (h 0 (by omega))
    have htail : uncovered spans (i + c.utf8Size) cs = uncovered spans' (i' + c.utf8Size) cs := by
      refine ih fun j hj => ?_
      rw [Nat.add_assoc, Nat.add_assoc]
      exact h (c.utf8Size + j) (by omega)
    rw [uncovered, uncovered, hhead, htail]

theorem kept_append (i : Nat) (bs bs' : List UInt8) :
    kept spans i (bs ++ bs') = kept spans i bs ++ kept spans (i + bs.length) bs' := by
  induction bs generalizing i with
  | nil => rfl
  | cons b bs ih =>
    have hplace : i + (bs.length + 1) = i + 1 + bs.length := by omega
    rw [List.cons_append, kept, kept, List.length_cons, hplace, ih]
    split
    · rfl
    · rfl

/-- Bytes are kept together if they are covered alike. -/
theorem kept_alike {i : Nat} {bs : List UInt8} {covered : Bool}
    (h : ∀ j, i ≤ j → j < i + bs.length → (spans.any fun s => decide (s.Covers j)) = covered) :
    kept spans i bs = if covered then [] else bs := by
  induction bs generalizing i with
  | nil => simp
  | cons b bs ih =>
    have htail : kept spans (i + 1) bs = if covered then [] else bs := by
      refine ih fun j hle hlt => h j (by omega) ?_
      rw [List.length_cons]
      omega
    rw [kept, h i (Nat.le_refl i) (by simp), htail]
    cases covered with
    | true => rfl
    | false => rfl

/-- The bytes that are kept are those of the characters that no span covers. -/
theorem kept_encode {text : String} (h : ∀ s ∈ spans, ∃ w, s.Marks text w) {u v : List Char}
    (ht : text.toList = u ++ v) :
    kept spans (Utf8.size u) (Utf8.encode v) = Utf8.encode (uncovered spans (Utf8.size u) v) := by
  induction v generalizing u with
  | nil => rfl
  | cons c v ih =>
    have hnext : Utf8.size u + c.utf8Size = Utf8.size (u ++ [c]) := by
      rw [Utf8.size_append, Utf8.size_cons]
      rfl
    have hlength : (String.utf8EncodeChar c).length = c.utf8Size := String.length_utf8EncodeChar c
    -- Spans start and stop between characters, so that the bytes of one are covered together.
    have hchar : kept spans (Utf8.size u) (String.utf8EncodeChar c) =
        if spans.any fun s => decide (s.Covers (Utf8.size u)) then []
        else String.utf8EncodeChar c := by
      refine kept_alike fun j hle hlt => ?_
      rw [hlength] at hlt
      rw [Bool.eq_iff_iff]
      simp only [List.any_eq_true, decide_eq_true_eq]
      refine exists_congr fun s => and_congr_right fun hs => ?_
      obtain ⟨w, hw⟩ := h s hs
      exact hw.covers_iff ht hle hlt
    rw [Utf8.encode_cons, kept_append, hchar, hlength, hnext, ih (u := u ++ [c]) (by simp [ht]),
      uncovered, hnext]
    split
    · rfl
    · rfl

/-- **Spans that hold pieces of a text leave the other characters**, with their blanks in order. -/
theorem residual_eq {text : String} (h : ∀ s ∈ spans, ∃ w, s.Marks text w) :
    residual text spans =
      String.ofList (Blank.trimChars (Blank.collapse (uncovered spans 0 text.toList))) := by
  have hkept := kept_encode h (u := []) (v := text.toList) rfl
  rw [residual, show (0 : Nat) = Utf8.size [] from rfl, hkept, Utf8.decode_encode]

/-- **A residual text has the uncovered characters that are not blank**, and spaces. -/
theorem filter_residual {text : String} (h : ∀ s ∈ spans, ∃ w, s.Marks text w) :
    (residual text spans).toList.filter (· ≠ ' ') =
      (uncovered spans 0 text.toList).filter (!Blank.isBlank ·) := by
  rw [residual_eq h, String.toList_ofList, Blank.filter_ordered]

theorem filter_residual_not_blank {text : String} (h : ∀ s ∈ spans, ∃ w, s.Marks text w) :
    (residual text spans).toList.filter (!Blank.isBlank ·) =
      (uncovered spans 0 text.toList).filter (!Blank.isBlank ·) := by
  rw [residual_eq h, String.toList_ofList, Blank.filter_trimChars, Blank.filter_collapse]

/-- Spans that cover more leave fewer characters uncovered. -/
theorem uncovered_sublist_of_covers (h : ∀ i, (∃ s ∈ spans, s.Covers i) → ∃ s ∈ spans', s.Covers i)
    (i : Nat) (cs : List Char) : (uncovered spans' i cs).Sublist (uncovered spans i cs) := by
  induction cs generalizing i with
  | nil => exact List.Sublist.refl _
  | cons c cs ih =>
    rw [uncovered, uncovered]
    split
    · split
      · exact ih _
      · exact (ih _).cons c
    · next hnot =>
      have hnot' : ¬ (spans.any fun s => decide (s.Covers i)) = true := by
        simp only [List.any_eq_true, decide_eq_true_eq] at hnot ⊢
        exact fun hcovers => hnot (h i hcovers)
      rw [if_neg hnot']
      exact (ih _).cons_cons c

/-! ## What is left of what is left -/

theorem uncovered_append (i : Nat) (cs cs' : List Char) :
    uncovered spans i (cs ++ cs') =
      uncovered spans i cs ++ uncovered spans (i + Utf8.size cs) cs' := by
  induction cs generalizing i with
  | nil => rfl
  | cons c cs ih =>
    rw [List.cons_append, uncovered, uncovered, ih, Utf8.size_cons, ← Nat.add_assoc]
    split
    · rfl
    · rfl

/-- Nothing is left of characters that are all covered. -/
theorem uncovered_of_covers {i : Nat} {cs : List Char}
    (h : ∀ j, i ≤ j → j < i + Utf8.size cs → ∃ s ∈ spans, s.Covers j) : uncovered spans i cs = [] := by
  induction cs generalizing i with
  | nil => rfl
  | cons c cs ih =>
    have hpos := c.utf8Size_pos
    rw [Utf8.size_cons] at h
    have hhead : (spans.any fun s => decide (s.Covers i)) = true := by
      obtain ⟨s, hs, hcovers⟩ := h i (Nat.le_refl i) (by omega)
      exact List.any_eq_true.mpr ⟨s, hs, decide_eq_true hcovers⟩
    rw [uncovered, if_pos hhead]
    exact ih fun j hle hlt => h j (by omega) (by omega)

/-- Characters are all left if none of them is covered. -/
theorem uncovered_of_not_covers {i : Nat} {cs : List Char}
    (h : ∀ j, j < Utf8.size cs → ∀ s ∈ spans, ¬ s.Covers (i + j)) : uncovered spans i cs = cs := by
  have hnone : ∀ i, uncovered [] i cs = cs := by
    induction cs with
    | nil => exact fun _ => rfl
    | cons c cs ih =>
      intro i
      rw [uncovered, if_neg (by simp), ih fun j hj => h j (by rw [Utf8.size_cons]; omega)]
  have hsame : uncovered spans i cs = uncovered [] i cs := by
    refine uncovered_congr fun j hj => ?_
    simpa using h j hj
  rw [hsame, hnone]

/-- **Without more spans a residual text stays as it is.** -/
theorem residual_residual (text : String) (spans : List Span) :
    residual (residual text spans) [] = residual text spans := by
  rw [residual, kept_no_spans, Utf8.decode_encode, residual, String.toList_ofList,
    Blank.ordered_ordered]

/-- **A span over a character that is not blank takes something away** from a text. -/
theorem residual_ne {text : String} (h : ∀ s ∈ spans, ∃ w, s.Marks text w) {s : Span}
    (hs : s ∈ spans) {u v : List Char} {c : Char} (ht : text.toList = u ++ c :: v)
    (hcovers : s.Covers (Utf8.size u)) (hc : Blank.isBlank c = false) :
    residual text spans ≠ text := by
  intro heq
  have hall : text.toList.filter (!Blank.isBlank ·) =
      (uncovered spans 0 text.toList).filter (!Blank.isBlank ·) := by
    conv_lhs => rw [← heq, filter_residual_not_blank h]
  have hcovered : (spans.any fun s => decide (s.Covers (0 + Utf8.size u))) = true :=
    List.any_eq_true.mpr ⟨s, hs, by simpa using hcovers⟩
  -- The character is counted on the left and covered on the right.
  have hlength := congrArg List.length hall
  rw [ht, uncovered_append, uncovered, if_pos hcovered, List.filter_append, List.filter_append,
    List.length_append, List.length_append, List.filter_cons_of_pos (by simp [hc]),
    List.length_cons] at hlength
  have hle : ∀ i cs, ((uncovered spans i cs).filter (!Blank.isBlank ·)).length ≤
      (cs.filter (!Blank.isBlank ·)).length :=
    fun i cs => ((uncovered_sublist i cs).filter _).length_le
  have hbefore := hle 0 u
  have hafter := hle (0 + Utf8.size u + c.utf8Size) v
  omega

/-- A piece `w` of what is left, between `u` and `v`, stood whole in the text: there is a place where
the text has it between the same two characters, and no span covers any of it. -/
def StoodWhole (text : String) (spans : List Span) (u w v : List Char) : Prop :=
  ∃ x y, text.toList = x ++ w ++ y ∧ x.getLast? = u.getLast? ∧ y.head? = v.head? ∧
    ∀ i, Utf8.size x ≤ i → i < Utf8.size (x ++ w) → ∀ s ∈ spans, ¬ s.Covers i

end Residual

end Timephrase
