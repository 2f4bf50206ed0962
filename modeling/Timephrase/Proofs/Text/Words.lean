import Timephrase.Proofs.Text.Blank

/-!
# The words of a text

The words of a text are the longest pieces of it without a blank.  A text whose blanks are in order
is its words joined by single spaces, and putting blanks in order keeps the words.

## Main definitions

* `Blank.words`: the words of a text
* `Blank.InOrder`: every blank is a single space between two characters that are not blank

## Main results

* `Blank.words_ordered`: putting blanks in order keeps the words
* `Blank.InOrder.eq_intercalate`: a text whose blanks are in order is its words joined by spaces
* `Blank.inOrder_iff`: the blanks of a text are in order just if putting them in order changes
  nothing
* `Blank.ordered_eq_intercalate`: what a text with its blanks put in order is
-/

namespace Timephrase.Blank

variable {cs : List Char} {c : Char}

/-! ## Words -/

/-- The words of a text: the pieces between its blanks, without those that are empty. -/
def words (cs : List Char) : List (List Char) := (cs.splitOnP isBlank).filter (· ≠ [])

@[simp] theorem words_nil : words [] = [] := rfl

/-- **Words end at a blank.**  All that is known of words follows from this. -/
theorem words_append_blank (hc : isBlank c = true) (x y : List Char) :
    words (x ++ c :: y) = words x ++ words y := by
  rw [words, List.splitOnP_append_cons x y hc, List.filter_append]
  rfl

theorem words_cons_blank (hc : isBlank c = true) (cs : List Char) : words (c :: cs) = words cs :=
  words_append_blank hc [] cs

/-- Characters of which none is blank make one word. -/
theorem words_of_not_blank (hne : cs ≠ []) (h : ∀ c ∈ cs, isBlank c = false) :
    words cs = [cs] := by
  rw [words, List.splitOnP_eq_singleton h, List.filter_singleton]
  simp [hne]

/-! ### Words stay -/

theorem words_dropWhile (cs : List Char) : words (cs.dropWhile isBlank) = words cs := by
  induction cs with
  | nil => rfl
  | cons c cs ih =>
    rw [List.dropWhile_cons]
    split
    · next hc => rw [ih, words_cons_blank hc]
    · rfl

theorem words_rdropWhile (cs : List Char) : words (cs.rdropWhile isBlank) = words cs := by
  -- On the characters, from the last of them back.
  induction cs using List.reverseRecOn with
  | nil => rfl
  | append_singleton cs c ih =>
    rw [List.rdropWhile_concat]
    split
    · next hc => rw [ih, words_append_blank hc, words_nil, List.append_nil]
    · rfl

theorem words_trimChars (cs : List Char) : words (trimChars cs) = words cs := by
  have htrim : trimChars cs = (cs.dropWhile isBlank).rdropWhile isBlank := rfl
  rw [htrim, words_rdropWhile, words_dropWhile]

/-- A run of blanks ends a word as one space does, whatever stands before it. -/
theorem words_append_collapse (before cs : List Char) :
    words (before ++ collapse cs) = words (before ++ cs) := by
  induction cs generalizing before with
  | nil => rfl
  | cons c cs ih =>
    have hrest : words (collapse cs) = words cs := ih []
    rw [collapse]
    split
    · next hc =>
      rw [words_append_blank hc]
      split
      · next hnext =>
        -- The blank that follows ends the word before the run.
        cases cs with
        | nil => cases hnext
        | cons d cs => rw [ih, words_append_blank hnext, words_cons_blank hnext]
      · rw [words_append_blank isBlank_space, hrest]
    · rw [List.append_cons before c (collapse cs), ih, ← List.append_cons]

/-- **Putting blanks in order keeps the words.** -/
theorem words_ordered (cs : List Char) : words (trimChars (collapse cs)) = words cs := by
  rw [words_trimChars]
  exact words_append_collapse [] cs

/-! ## Blanks in order -/

/-- The blanks of a text are in order: each of them is a space, the first and the last character are
not blank, and of two characters in a row one is not. -/
structure InOrder (cs : List Char) : Prop where
  space : ∀ c ∈ cs, isBlank c = true → c = ' '
  starts : ∀ c ∈ cs.head?, isBlank c = false
  ends : ∀ c ∈ cs.getLast?, isBlank c = false
  single : cs.IsChain fun c d => isBlank c = true → isBlank d = false

theorem inOrder_ordered (cs : List Char) : InOrder (trimChars (collapse cs)) where
  space _ hc := eq_space_of_mem_collapse (mem_of_mem_trimChars hc)
  starts c hc := by
    have hfirst := List.head?_dropWhile_not isBlank (trimChars (collapse cs))
    rw [dropWhile_trimChars, Option.mem_def.mp hc] at hfirst
    exact hfirst
  ends c hc := by
    have hlast := List.head?_dropWhile_not isBlank ((collapse cs).dropWhile isBlank).reverse
    rw [trimChars, List.getLast?_reverse] at hc
    rw [Option.mem_def.mp hc] at hlast
    exact hlast
  single := isChain_trimChars (isChain_collapse cs)

/-- **The blanks of a text are in order** just if putting them in order changes nothing. -/
theorem inOrder_iff : InOrder cs ↔ trimChars (collapse cs) = cs := by
  constructor
  · intro h
    have hfirst : cs.dropWhile isBlank = cs := by
      cases cs with
      | nil => rfl
      | cons c cs => rw [List.dropWhile_cons, h.starts c rfl, if_neg Bool.false_ne_true]
    have hlast : cs.rdropWhile isBlank = cs := by
      rw [List.rdropWhile_eq_self_iff]
      intro hne
      rw [h.ends _ (List.getLast?_eq_some_getLast hne)]
      exact Bool.false_ne_true
    rw [collapse_of_isChain h.single h.space]
    show (cs.dropWhile isBlank).rdropWhile isBlank = cs
    rw [hfirst, hlast]
  · intro h
    rw [← h]
    exact inOrder_ordered cs

/-- What follows a blank of a text whose blanks are in order has its own in order, and is
something. -/
theorem InOrder.of_append_cons {w rest : List Char} (h : InOrder (w ++ c :: rest))
    (hc : isBlank c = true) : rest ≠ [] ∧ InOrder rest := by
  have hchain := (List.isChain_append.mp h.single).2.1
  obtain ⟨hnext, hrest⟩ := List.isChain_cons.mp hchain
  have hlast : (w ++ c :: rest).getLast? = some (rest.getLast?.getD c) := by
    rw [List.getLast?_append, List.getLast?_cons]
    rfl
  have hne : rest ≠ [] := by
    rintro rfl
    rw [h.ends c hlast] at hc
    cases hc
  refine ⟨hne, fun d hd => h.space d ?_, fun d hd => hnext d hd hc, fun d hd => h.ends d ?_, hrest⟩
  · exact List.mem_append_right _ (List.mem_cons_of_mem _ hd)
  · rw [Option.mem_def.mp hd] at hlast
    exact hlast

/-- A text has no blank, or it is some characters that are not blank, a blank, and a rest. -/
theorem not_blank_or_split (cs : List Char) : (∀ c ∈ cs, isBlank c = false) ∨
    ∃ w c rest, cs = w ++ c :: rest ∧ (∀ d ∈ w, isBlank d = false) ∧ isBlank c = true := by
  induction cs with
  | nil => exact Or.inl nofun
  | cons c cs ih =>
    cases hc : isBlank c with
    | true => exact Or.inr ⟨[], c, cs, rfl, nofun, hc⟩
    | false =>
      rcases ih with hall | ⟨w, d, rest, rfl, hw, hd⟩
      · exact Or.inl (List.forall_mem_cons.mpr ⟨hc, hall⟩)
      · exact Or.inr ⟨c :: w, d, rest, rfl, List.forall_mem_cons.mpr ⟨hc, hw⟩, hd⟩

/-- **A text whose blanks are in order is its words** joined by spaces. -/
theorem InOrder.eq_intercalate (h : InOrder cs) : cs = [' '].intercalate (words cs) := by
  -- On the length: a word, the space after it, and what follows.
  induction hn : cs.length using Nat.strong_induction_on generalizing cs with
  | _ n ih =>
    rcases not_blank_or_split cs with hall | ⟨w, c, rest, rfl, hw, hc⟩
    · cases cs with
      | nil => rfl
      | cons c cs =>
        rw [words_of_not_blank (List.cons_ne_nil c cs) hall, List.intercalate_singleton]
    · obtain ⟨hne, hrest⟩ := h.of_append_cons hc
      have hlt : rest.length < n := by
        rw [← hn, List.length_append, List.length_cons]
        omega
      have heq := ih rest.length hlt hrest rfl
      have hword : w ≠ [] := by
        rintro rfl
        rw [h.starts c rfl] at hc
        cases hc
      have hwords : words rest ≠ [] := by
        intro hnil
        rw [hnil] at heq
        exact hne heq
      rw [words_append_blank hc, words_of_not_blank hword hw, List.singleton_append,
        List.intercalate_cons_of_ne_nil hwords, ← heq,
        h.space c (List.mem_append_right _ List.mem_cons_self) hc]
      exact List.append_cons w ' ' rest

/-- **A text with its blanks put in order** is its words joined by spaces. -/
theorem ordered_eq_intercalate (cs : List Char) :
    trimChars (collapse cs) = [' '].intercalate (words cs) := by
  rw [← words_ordered cs]
  exact (inOrder_ordered cs).eq_intercalate

end Timephrase.Blank
