import Timephrase.Proofs.Captures
import Timephrase.Proofs.Residual
import Timephrase.Proofs.Text.Words

/-!
# The words of a residual text

Any list of spans can be taken out of a text: in any order, one over another, backwards or past the
end.  What is left depends on the covered positions alone, and its blanks are in order.  If no
character is cut, it is the words of the characters that no span covers.

## Main definitions

* `Utf8.IsBoundary`: a position between two characters of a text, or at an end of it
* `Span.CutsNone`: a span starts and stops between characters, as far as it lies in the text
* `Residual.clipped`: the parts of spans that lie in a text

## Main results

* `Residual.residual_eq_words`: the residual text as the words of what is not covered
* `Residual.residual_is_words`: no character is cut, lost, repeated or moved
* `Residual.residual_normal_form`: a residual text is a normal form of the covered positions
-/

namespace Timephrase

variable {text : String} {s : Span}

/-! ## Boundaries -/

namespace Utf8

/-- A position of a text where a character starts or the text ends. -/
def IsBoundary (cs : List Char) (i : Nat) : Prop := ∃ u v, cs = u ++ v ∧ i = size u

theorem isBoundary_iff {cs : List Char} {i : Nat} :
    IsBoundary cs i ↔ (splitAt? i cs).isSome = true := by
  constructor
  · rintro ⟨u, v, rfl, rfl⟩
    rw [splitAt?_size]
    rfl
  · intro h
    obtain ⟨⟨u, v⟩, hsplit⟩ := Option.isSome_iff_exists.mp h
    exact ⟨u, v, eq_of_splitAt? hsplit⟩

instance (cs : List Char) (i : Nat) : Decidable (IsBoundary cs i) :=
  decidable_of_iff' _ isBoundary_iff

end Utf8

/-- A span cuts no character of a text: as far as it lies in the text, it holds nothing or starts
and stops between characters. -/
def Span.CutsNone (s : Span) (text : String) : Prop :=
  (s.clamp (Utf8.size text.toList)).start < (s.clamp (Utf8.size text.toList)).stop →
    Utf8.IsBoundary text.toList (s.clamp (Utf8.size text.toList)).start ∧
      Utf8.IsBoundary text.toList (s.clamp (Utf8.size text.toList)).stop

instance (s : Span) (text : String) : Decidable (s.CutsNone text) :=
  inferInstanceAs (Decidable (_ → _))

/-- The part of a span that lies in a text holds a piece of it, if it holds anything and cuts no
character. -/
theorem Span.CutsNone.exists_marks (h : s.CutsNone text)
    (hlt : (s.clamp (Utf8.size text.toList)).start < (s.clamp (Utf8.size text.toList)).stop) :
    ∃ w, (s.clamp (Utf8.size text.toList)).Marks text w := by
  obtain ⟨⟨u, v, ht, hstart⟩, u', v', ht', hstop⟩ := h hlt
  have hle : Utf8.size u ≤ Utf8.size u' := by
    rw [← hstart, ← hstop]
    exact Nat.le_of_lt hlt
  obtain ⟨w, rfl, -⟩ := Utf8.exists_of_append_eq_append (ht.symm.trans ht') hle
  exact ⟨w, u, v', ht', hstart, hstop⟩

namespace Residual

variable {spans spans' : List Span}

/-! ## Spans of any kind -/

/-- The parts of spans that lie in the first `n` positions, without those that hold nothing. -/
def clipped (spans : List Span) (n : Nat) : List Span :=
  (spans.map (·.clamp n)).filter fun s => s.start < s.stop

/-- Below the bound the parts cover what the spans do. -/
theorem exists_covers_clipped_iff {n i : Nat} (hi : i < n) :
    (∃ s ∈ clipped spans n, s.Covers i) ↔ ∃ s ∈ spans, s.Covers i := by
  constructor
  · rintro ⟨_, hpart, hcovers⟩
    obtain ⟨s, hs, rfl⟩ := List.mem_map.mp (List.mem_of_mem_filter hpart)
    exact ⟨s, hs, ((s.covers_clamp_iff n i).mp hcovers).1⟩
  · rintro ⟨s, hs, hcovers⟩
    have hpart := (s.covers_clamp_iff n i).mpr ⟨hcovers, hi⟩
    refine ⟨s.clamp n, List.mem_filter.mpr ⟨List.mem_map_of_mem hs, decide_eq_true ?_⟩, hpart⟩
    exact Nat.lt_of_le_of_lt hpart.1 hpart.2

theorem exists_marks_of_mem_clipped (h : ∀ s ∈ spans, s.CutsNone text) :
    ∀ s ∈ clipped spans (Utf8.size text.toList), ∃ w, s.Marks text w := by
  intro _ hpart
  obtain ⟨hclamp, hlt⟩ := List.mem_filter.mp hpart
  obtain ⟨s, hs, rfl⟩ := List.mem_map.mp hclamp
  exact (h s hs).exists_marks (of_decide_eq_true hlt)

/-! ## No character is cut -/

section

variable (h : ∀ s ∈ spans, s.CutsNone text)

include h

/-- The bytes of a character are covered alike. -/
theorem exists_covers_iff {u v : List Char} {c : Char} {i : Nat}
    (ht : text.toList = u ++ c :: v) (hi : Utf8.size u ≤ i)
    (hi' : i < Utf8.size u + c.utf8Size) :
    (∃ s ∈ spans, s.Covers i) ↔ ∃ s ∈ spans, s.Covers (Utf8.size u) := by
  have hsize : Utf8.size text.toList = Utf8.size u + (c.utf8Size + Utf8.size v) := by
    rw [ht, Utf8.size_append, Utf8.size_cons]
  rw [← exists_covers_clipped_iff (n := Utf8.size text.toList) (by omega),
    ← exists_covers_clipped_iff (n := Utf8.size text.toList) (i := Utf8.size u) (by omega)]
  refine exists_congr fun s => and_congr_right fun hs => ?_
  obtain ⟨w, hw⟩ := exists_marks_of_mem_clipped h s hs
  exact hw.covers_iff ht hi hi'

/-- **The residual text is the words of the characters that no span covers**, joined by spaces. -/
theorem residual_eq_words : residual text spans =
    String.ofList ([' '].intercalate (Blank.words (uncovered spans 0 text.toList))) := by
  have hsame : residual text spans = residual text (clipped spans (Utf8.size text.toList)) := by
    refine residual_congr fun j hj => (exists_covers_clipped_iff ?_).symm
    rwa [Utf8.length_encode] at hj
  have huncovered : uncovered (clipped spans (Utf8.size text.toList)) 0 text.toList =
      uncovered spans 0 text.toList :=
    uncovered_congr fun j hj => exists_covers_clipped_iff (by omega)
  rw [hsame, residual_eq (exists_marks_of_mem_clipped h), huncovered,
    Blank.ordered_eq_intercalate]

/-- **A residual text has the uncovered characters that are not blank**, and spaces. -/
theorem filter_residual_of_cutsNone : (residual text spans).toList.filter (!Blank.isBlank ·) =
    (uncovered spans 0 text.toList).filter (!Blank.isBlank ·) := by
  rw [residual_eq_words h, ← Blank.ordered_eq_intercalate, String.toList_ofList,
    Blank.filter_trimChars, Blank.filter_collapse]

/-- **Taking spans out of a text leaves the words of the other characters.**  Where the spans, as
far as they lie in the text, start and stop between characters, every character is covered whole or
not at all.  The residual text is the words of those that are not covered, joined by single spaces.
Of the characters that are not blank it has these, each as often and in the same order, and no
other: none is lost, none that is covered is left, and none takes the place of bytes. -/
theorem residual_is_words :
    (∀ u c v, text.toList = u ++ c :: v → ∀ i, Utf8.size u ≤ i → i < Utf8.size u + c.utf8Size →
      ((∃ s ∈ spans, s.Covers i) ↔ ∃ s ∈ spans, s.Covers (Utf8.size u))) ∧
    residual text spans =
      String.ofList ([' '].intercalate (Blank.words (uncovered spans 0 text.toList))) ∧
    (residual text spans).toList.filter (!Blank.isBlank ·) =
      (uncovered spans 0 text.toList).filter (!Blank.isBlank ·) ∧
    ∀ c ∈ (residual text spans).toList, c = ' ' ∨ c ∈ uncovered spans 0 text.toList := by
  refine ⟨fun u c v ht i hi hi' => exists_covers_iff h ht hi hi', residual_eq_words h,
    filter_residual_of_cutsNone h, fun c hc => ?_⟩
  cases hblank : Blank.isBlank c with
  | true =>
    rw [residual_eq_words h, ← Blank.ordered_eq_intercalate, String.toList_ofList] at hc
    exact Or.inl (Blank.eq_space_of_mem_collapse (Blank.mem_of_mem_trimChars hc) hblank)
  | false =>
    have hmem : c ∈ (residual text spans).toList.filter (!Blank.isBlank ·) :=
      List.mem_filter.mpr ⟨hc, by rw [hblank]; rfl⟩
    rw [filter_residual_of_cutsNone h] at hmem
    exact Or.inr (List.mem_of_mem_filter hmem)

end

/-- Spans in no order, one over another, twice the same, backwards and past the end. -/
theorem residual_is_words_cafe :
    (∀ s ∈ ([⟨20, 40⟩, ⟨9, 11⟩, ⟨8, 10⟩, ⟨9, 11⟩, ⟨6, 3⟩, ⟨30, 24⟩] : List Span),
      s.CutsNone "a café  at\u3000noon  now") ∧
    residual "a café  at\u3000noon  now"
        [⟨20, 40⟩, ⟨9, 11⟩, ⟨8, 10⟩, ⟨9, 11⟩, ⟨6, 3⟩, ⟨30, 24⟩] = "a café noon" := by
  have hnone : ∀ s ∈ ([⟨20, 40⟩, ⟨9, 11⟩, ⟨8, 10⟩, ⟨9, 11⟩, ⟨6, 3⟩, ⟨30, 24⟩] : List Span),
      s.CutsNone "a café  at\u3000noon  now" := by decide +kernel
  refine ⟨hnone, (residual_is_words hnone).2.1.trans ?_⟩
  decide +kernel

/-! ## Normal form -/

/-- **A residual text is a normal form of what is covered.**  Spans that cover the same positions of
a text leave the same, also where they cut characters.  The blanks of what they leave are in order,
and without more spans it stays as it is.  The texts that stay as they are without spans are those
whose blanks are in order. -/
theorem residual_normal_form (text : String) (spans : List Span) :
    (∀ spans', (∀ j < (Utf8.encode text.toList).length,
        ((∃ s ∈ spans, s.Covers j) ↔ ∃ s ∈ spans', s.Covers j)) →
      residual text spans = residual text spans') ∧
    Blank.InOrder (residual text spans).toList ∧
    residual (residual text spans) [] = residual text spans ∧
    (residual text [] = text ↔ Blank.InOrder text.toList) := by
  refine ⟨fun spans' h => residual_congr h, ?_, residual_residual text spans, ?_⟩
  · rw [residual, String.toList_ofList]
    exact Blank.inOrder_ordered _
  · rw [Blank.inOrder_iff, residual, kept_no_spans, Utf8.decode_encode, ← String.toList_inj,
      String.toList_ofList]

/-- Spans that cover the same positions inside the last two characters. -/
theorem residual_normal_form_cut :
    (∀ j < (Utf8.encode "at é €".toList).length,
      ((∃ s ∈ ([⟨4, 5⟩, ⟨6, 20⟩] : List Span), s.Covers j) ↔
        ∃ s ∈ ([⟨7, 9⟩, ⟨6, 8⟩, ⟨5, 2⟩, ⟨4, 5⟩] : List Span), s.Covers j)) ∧
    residual "at é €" [⟨4, 5⟩, ⟨6, 20⟩] = residual "at é €" [⟨7, 9⟩, ⟨6, 8⟩, ⟨5, 2⟩, ⟨4, 5⟩] := by
  have hsame : ∀ j < (Utf8.encode "at é €".toList).length,
      ((∃ s ∈ ([⟨4, 5⟩, ⟨6, 20⟩] : List Span), s.Covers j) ↔
        ∃ s ∈ ([⟨7, 9⟩, ⟨6, 8⟩, ⟨5, 2⟩, ⟨4, 5⟩] : List Span), s.Covers j) := by decide +kernel
  exact ⟨hsame, (residual_normal_form "at é €" [⟨4, 5⟩, ⟨6, 20⟩]).1 _ hsame⟩

end Residual

end Timephrase
