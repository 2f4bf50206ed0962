import Timephrase.Features
import Timephrase.Proofs.Captures
import Timephrase.Proofs.Text.AsciiCase
import Timephrase.Proofs.Text.Words

/-!
# Blanks around a text

Blanks that stand before and behind a text move what is in it and change nothing else: it has the
same words and the same features, and the same pieces in other places.

## Main definitions

* `Margins`: blanks before and behind a text
* `Margins.around`: a text with its margins

## Main results

* `Margins.exists_around_trim`: a text is what is trimmed of it, with margins around
* `Margins.ordered_around`: what is left when the blanks are put in order
* `Margins.scan_around`: the features of a text with margins
* `Margins.slice?_around`: the pieces of a text with margins
-/

namespace Timephrase

open Blank

/-- Blanks that stand before and behind a text. -/
structure Margins where
  front : List Char
  back : List Char
  isBlank_front : ∀ c ∈ front, isBlank c = true
  isBlank_back : ∀ c ∈ back, isBlank c = true

/-- A blank is no digit and no letter of ASCII. -/
theorem Blank.kind_of_isBlank {c : Char} (h : isBlank c = true) :
    c.isDigit = false ∧ c.isUpper = false ∧ c.isLower = false := by
  have hword : (c.isUpper || c.isLower || c.isDigit || c == '_') = false :=
    Word.isAsciiWord_of_isBlank h
  simp only [Bool.or_eq_false_iff] at hword
  exact ⟨hword.1.2, hword.1.1.1, hword.1.1.2⟩

namespace Margins

variable (m : Margins) (text : String) (cs : List Char)

/-- A text with its margins. -/
def around : String := String.ofList (m.front ++ text.toList ++ m.back)

/-- The number of bytes that stand before the text. -/
def width : Nat := Utf8.size m.front

@[simp] theorem toList_around : (m.around text).toList = m.front ++ text.toList ++ m.back :=
  String.toList_ofList

/-- **A text is what is trimmed of it**, with margins around. -/
theorem exists_around_trim :
    ∃ m : Margins, m.front = text.toList.takeWhile isBlank ∧ text = m.around (trim text) := by
  let rest := (text.toList.dropWhile isBlank).reverse
  have hfront : ∀ c ∈ text.toList.takeWhile isBlank, isBlank c = true := by
    intro c hc
    exact List.mem_takeWhile_imp hc
  have hback : ∀ c ∈ (rest.takeWhile isBlank).reverse, isBlank c = true := by
    intro c hc
    exact List.mem_takeWhile_imp (List.mem_reverse.mp hc)
  have htrim : (trim text).toList = (rest.dropWhile isBlank).reverse := String.toList_ofList
  refine ⟨⟨_, _, hfront, hback⟩, rfl, ?_⟩
  rw [← String.toList_inj, toList_around, htrim, List.append_assoc, ← List.reverse_append,
    List.takeWhile_append_dropWhile, List.reverse_reverse, List.takeWhile_append_dropWhile]

/-! ## Words -/

theorem words_append_of_isBlank {blanks : List Char} (h : ∀ c ∈ blanks, isBlank c = true) :
    words (cs ++ blanks) = words cs := by
  induction blanks generalizing cs with
  | nil => rw [List.append_nil]
  | cons c blanks ih =>
    obtain ⟨hc, h⟩ := List.forall_mem_cons.mp h
    have hnone : words blanks = [] := ih [] h
    rw [words_append_blank hc, hnone, List.append_nil]

theorem words_around : words (m.front ++ cs ++ m.back) = words cs := by
  rw [words_append_of_isBlank _ m.isBlank_back, ← words_dropWhile,
    List.dropWhile_append_of_pos m.isBlank_front, words_dropWhile]

/-- **Margins are lost** when the blanks of a text are put in order. -/
theorem ordered_around :
    trimChars (collapse (m.front ++ cs ++ m.back)) = trimChars (collapse cs) := by
  rw [ordered_eq_intercalate, ordered_eq_intercalate, words_around]

/-! ## Features -/

/-- What is true of no blank is true of a character of a text with margins just if it is of one of
the text. -/
theorem any_around {p : Char → Bool} (hp : ∀ c, isBlank c = true → p c = false) :
    (m.front ++ cs ++ m.back).any p = cs.any p := by
  have hfront : m.front.any p = false :=
    List.any_eq_false.mpr fun c hc => by simp [hp c (m.isBlank_front c hc)]
  have hback : m.back.any p = false :=
    List.any_eq_false.mpr fun c hc => by simp [hp c (m.isBlank_back c hc)]
  rw [List.any_append, List.any_append, hfront, hback, Bool.false_or, Bool.or_false]

/-- No month has a blank among its first letters. -/
theorem not_monthStart_of_isBlank {c : Char} (hc : c ∈ cs) (hblank : isBlank c = true) :
    Features.monthStarts.contains (cs.map Char.toLower) = false := by
  have hstarts : ∀ start ∈ Features.monthStarts, ∀ d ∈ start, d.isLower = true := by
    simp [Features.monthStarts]
  by_contra hstart
  have hmem := List.contains_iff_mem.mp (Bool.not_eq_false _ ▸ hstart)
  have hlower := hstarts _ hmem _ (List.mem_map_of_mem hc)
  rw [(kind_of_isBlank ((isBlank_toLower c).trans hblank)).2.2] at hlower
  cases hlower

theorem hasMonthStart_of_isBlank {blanks : List Char} (h : ∀ c ∈ blanks, isBlank c = true) :
    Features.hasMonthStart (blanks ++ cs) = Features.hasMonthStart cs := by
  induction blanks with
  | nil => rfl
  | cons c blanks ih =>
    obtain ⟨hc, h⟩ := List.forall_mem_cons.mp h
    rw [List.cons_append, Features.hasMonthStart, ih h,
      not_monthStart_of_isBlank _ (c := c) (by simp) hc, Bool.false_or]

theorem hasMonthStart_append_of_isBlank {blanks : List Char}
    (h : ∀ c ∈ blanks, isBlank c = true) :
    Features.hasMonthStart (cs ++ blanks) = Features.hasMonthStart cs := by
  induction cs with
  | nil =>
    have hall := hasMonthStart_of_isBlank [] h
    rwa [List.append_nil] at hall
  | cons c cs ih =>
    rw [List.cons_append, Features.hasMonthStart, Features.hasMonthStart, ih]
    refine congrArg (· || _) ?_
    -- Three characters are there without the blanks, or else there is a blank among them.
    by_cases hlength : 2 ≤ cs.length
    · rw [← List.cons_append, List.take_append_of_le_length (by simpa using hlength)]
    · cases blanks with
      | nil => rw [List.append_nil]
      | cons b blanks =>
        have hb := h b List.mem_cons_self
        have hmem : b ∈ (c :: (cs ++ b :: blanks)).take 3 := by
          rw [← List.cons_append, List.take_append, List.mem_append]
          right
          obtain ⟨n, hn⟩ : ∃ n, 3 - (c :: cs).length = n + 1 :=
            ⟨2 - cs.length - 1, by simp; omega⟩
          rw [hn]
          exact List.mem_cons_self
        have hshort : Features.monthStarts.contains (((c :: cs).take 3).map Char.toLower) =
            false := by
          have hstarts : ∀ start ∈ Features.monthStarts, start.length = 3 := by decide
          by_contra hstart
          have hthree := hstarts _ (List.contains_iff_mem.mp (Bool.not_eq_false _ ▸ hstart))
          simp at hthree
          omega
        rw [not_monthStart_of_isBlank _ hmem hb, hshort]

/-- **Margins have no features.** -/
theorem scan_around : Features.scan (m.around text) = Features.scan text := by
  have hdigits := m.any_around text.toList fun c hc => (kind_of_isBlank hc).1
  have hcapitals := m.any_around text.toList fun c hc => (kind_of_isBlank hc).2.1
  rw [Features.scan, Features.scan, toList_around, hdigits, hcapitals,
    hasMonthStart_append_of_isBlank _ m.isBlank_back, hasMonthStart_of_isBlank _ m.isBlank_front]

/-! ## Pieces -/

/-- **The pieces of a text with margins** are those of the text, behind the first margin. -/
theorem slice?_around {text : String} {start stop : Nat}
    (h : stop ≤ Utf8.size text.toList) :
    Utf8.slice? (m.around text) (m.width + start) (m.width + stop) =
      Utf8.slice? text start stop := by
  have hlength : m.width + stop - (m.width + start) = stop - start := by omega
  by_cases hle : start ≤ stop
  · rw [Utf8.slice?, Utf8.slice?, if_pos (by omega), if_pos hle, hlength, toList_around, width,
      List.append_assoc, Utf8.splitAt?_size_add, Utf8.splitAt?_append _ (by omega)]
    cases hsplit : Utf8.splitAt? start text.toList with
    | none => rfl
    | some parts =>
      obtain ⟨x, y⟩ := parts
      obtain ⟨htext, hstart⟩ := Utf8.eq_of_splitAt? hsplit
      have hsize : stop - start ≤ Utf8.size y := by
        rw [htext, Utf8.size_append] at h
        omega
      have hpiece := Utf8.splitAt?_append m.back hsize
      simp only [Option.map_some, Option.bind_eq_bind, Option.bind_some, hpiece]
      cases Utf8.splitAt? (stop - start) y with
      | none => rfl
      | some parts => rfl
  · rw [Utf8.slice?, Utf8.slice?, if_neg (by omega), if_neg hle]

end Margins

end Timephrase
