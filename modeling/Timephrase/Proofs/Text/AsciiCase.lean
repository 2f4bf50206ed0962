import Mathlib
import Timephrase.Features
import Timephrase.Proofs.Text.Kind
import Timephrase.Text.Lowercase
import Timephrase.Text.Utf8

/-!
# The case of ASCII letters

Two texts that differ only in the case of ASCII letters are the same text once it is written in small
ASCII letters.  Writing it so moves no character, and the classes of characters do not see it.

## Main definitions

* `Ascii.Recased`: texts that differ in the case of ASCII letters alone
* `Ranges.ignoresCase`: whether ranges have both or neither of each pair of ASCII letters

## Main results

* `Ascii.Recased.toLower_eq`: such texts are the same in small ASCII letters
* `Ranges.contains_toLower`: ranges that ignore case do not see it
* `Utf8.slice?_toLower`, `Lowercase.lowercase_toLower`: pieces of the text, and its small letters
-/

namespace Timephrase

/-! ## Characters -/

namespace Ascii

theorem utf8Size_toLower (c : Char) : c.toLower.utf8Size = c.utf8Size := by
  have hone : ∀ d : Char, d.toNat ≤ 0x7F → d.utf8Size = 1 :=
    fun d hd => Char.utf8Size_eq_one_iff.mpr (UInt32.le_iff_toNat_le.mpr hd)
  rcases toLower_cases c with h | ⟨hlow, hhigh, h⟩
  · rw [h]
  · rw [hone c (by omega), hone c.toLower (by omega)]

end Ascii

namespace Ranges

/-- The ranges that reach into the ASCII letters. -/
def upToLetters (r : Ranges) : Ranges := ⟨r.list.filter fun p => p.1 ≤ 0x7A⟩

theorem contains_upToLetters (r : Ranges) {n : Nat} (hn : n ≤ 0x7A) :
    r.upToLetters.contains n = r.contains n := by
  rw [upToLetters, contains, contains, List.any_filter]
  congr 1
  funext p
  by_cases hp : p.1 ≤ 0x7A
  · simp [hp]
  · have hlo : ¬ p.1 ≤ n := by omega
    simp [hp, hlo]

/-- Whether ranges have both or neither of each pair of a capital and a small ASCII letter. -/
def ignoresCase (r : Ranges) : Bool :=
  (List.range 26).all fun i =>
    r.upToLetters.contains (0x61 + i) == r.upToLetters.contains (0x41 + i)

/-- **Ranges that ignore case** do not see it. -/
theorem contains_toLower {r : Ranges} (h : r.ignoresCase = true) (c : Char) :
    r.contains c.toLower.toNat = r.contains c.toNat := by
  rcases Ascii.toLower_cases c with hc | ⟨hlow, hhigh, hc⟩
  · rw [hc]
  · obtain ⟨i, hi⟩ := Nat.exists_eq_add_of_le hlow
    have hpair := beq_iff_eq.mp (List.all_eq_true.mp h i (List.mem_range.mpr (by omega)))
    rw [contains_upToLetters r (by omega), contains_upToLetters r (by omega)] at hpair
    have hsmall : 0x41 + i + 0x20 = 0x61 + i := by omega
    rw [hc, hi, hsmall]
    exact hpair

end Ranges

theorem Blank.isBlank_toLower (c : Char) : isBlank c.toLower = isBlank c :=
  Ranges.contains_toLower (by decide) c

theorem Word.isAsciiWord_toLower (c : Char) : isAsciiWord c.toLower = isAsciiWord c := by
  rw [Bool.eq_iff_iff, isAsciiWord_iff, isAsciiWord_iff]
  rcases Ascii.toLower_cases c with h | ⟨hlow, hhigh, h⟩
  · rw [h]
  · omega

theorem Word.isWord_toLower (c : Char) : isWord c.toLower = isWord c := by
  rcases Ascii.toLower_cases c with h | ⟨hlow, hhigh, h⟩
  · rw [h]
  · rw [isWord, isWord, if_pos (by omega), if_pos (by omega), isAsciiWord_toLower]

theorem Ascii.isDigit_toLower (c : Char) : c.toLower.isDigit = c.isDigit := by
  rw [Bool.eq_iff_iff, isDigit_iff, isDigit_iff]
  rcases toLower_cases c with h | ⟨hlow, hhigh, h⟩
  · rw [h]
  · omega

/-- A character that is no ASCII letter is not made of another one. -/
theorem Ascii.toLower_eq_iff {c d : Char} (hd : d.isAlpha = false) : c.toLower = d ↔ c = d := by
  constructor
  · rintro rfl
    rw [Char.isAlpha_toLower_eq_isAlpha] at hd
    have hupper : ¬ c.isUpper = true := by
      intro h
      simp [Char.isAlpha, h] at hd
    exact (Char.toLower_eq_of_not_isUpper hupper).symm
  · rintro rfl
    have hupper : ¬ c.isUpper = true := by
      intro h
      simp [Char.isAlpha, h] at hd
    exact Char.toLower_eq_of_not_isUpper hupper

/-! ## Texts -/

namespace Ascii

/-- Two texts differ in the case of ASCII letters alone. -/
def Recased (text text' : String) : Prop :=
  List.Forall₂ (fun c c' => c' = c ∨ c' = c.toLower ∨ c' = c.toUpper) text.toList text'.toList

/-- **Texts that differ in the case of ASCII letters alone** are the same in small letters. -/
theorem Recased.toLower_eq {text text' : String} (h : Recased text text') :
    text'.toLower = text.toLower := by
  have hchars : text'.toList.map Char.toLower = text.toList.map Char.toLower := by
    rw [Recased] at h
    generalize text.toList = cs at h ⊢
    generalize text'.toList = cs' at h ⊢
    induction h with
    | nil => rfl
    | cons hc _ ih =>
      rw [List.map_cons, List.map_cons, ih]
      rcases hc with rfl | rfl | rfl
      · rfl
      · rw [Char.toLower_toLower_eq_toLower]
      · rw [Char.toLower_toUpper_eq_toLower]
  rw [← String.toList_inj, String.toLower, String.toLower, String.toList_map, String.toList_map,
    hchars]

end Ascii

namespace Utf8

theorem size_toLower (cs : List Char) : size (cs.map Char.toLower) = size cs := by
  induction cs with
  | nil => rfl
  | cons c cs ih => rw [List.map_cons, size, size, Ascii.utf8Size_toLower, ih]

theorem splitAt?_toLower (n : Nat) (cs : List Char) :
    splitAt? n (cs.map Char.toLower) =
      (splitAt? n cs).map fun p => (p.1.map Char.toLower, p.2.map Char.toLower) := by
  induction cs generalizing n with
  | nil =>
    cases n with
    | zero => rfl
    | succ n => rfl
  | cons c cs ih =>
    cases n with
    | zero => rfl
    | succ n =>
      rw [List.map_cons, splitAt?, splitAt?, Ascii.utf8Size_toLower, ih]
      split
      · cases splitAt? (n + 1 - c.utf8Size) cs with
        | none => rfl
        | some p => rfl
      · rfl

/-- **A piece of a text in small letters** is the piece of the text in small letters. -/
theorem slice?_toLower (text : String) (start stop : Nat) :
    slice? text.toLower start stop = (slice? text start stop).map String.toLower := by
  rw [slice?, slice?, String.toLower, String.toList_map, splitAt?_toLower]
  split
  · cases splitAt? start text.toList with
    | none => rfl
    | some p =>
      obtain ⟨before, rest⟩ := p
      simp only [Option.map_some, Option.bind_eq_bind, Option.bind_some, splitAt?_toLower]
      cases splitAt? (stop - start) rest with
      | none => rfl
      | some q =>
        obtain ⟨piece, after⟩ := q
        simp only [Option.map_some, Option.bind_some, Option.some.injEq]
        rw [← String.toList_inj, String.toLower, String.toList_map, String.toList_ofList,
          String.toList_ofList]
  · rfl

end Utf8

/-! ## Small letters of all scripts -/

namespace Lowercase

theorem lower_toLower (c : Char) : lower c.toLower = lower c := by
  rcases Ascii.toLower_cases c with h | ⟨hlow, hhigh, h⟩
  · rw [h]
  · rw [lower, lower, if_pos (by omega), if_pos (by omega), Char.toLower_toLower_eq_toLower]

theorem startsCased_toLower (cs : List Char) :
    startsCased (cs.map Char.toLower) = startsCased cs := by
  have hignorable : (fun c : Char => ignorable.contains c.toNat) ∘ Char.toLower =
      fun c => ignorable.contains c.toNat :=
    funext fun c => Ranges.contains_toLower (by decide +kernel) c
  rw [startsCased, startsCased, List.dropWhile_map, hignorable]
  cases cs.dropWhile fun c => ignorable.contains c.toNat with
  | nil => rfl
  | cons c rest => exact Ranges.contains_toLower (r := cased) (by decide +kernel) c

theorem lowerAfter_toLower (before cs : List Char) :
    lowerAfter (before.map Char.toLower) (cs.map Char.toLower) = lowerAfter before cs := by
  induction cs generalizing before with
  | nil => rfl
  | cons c cs ih =>
    have hsigma : c.toLower = '\u03A3' ↔ c = '\u03A3' := Ascii.toLower_eq_iff (by decide)
    have hdotted : c.toLower = '\u0130' ↔ c = '\u0130' := Ascii.toLower_eq_iff (by decide)
    rw [List.map_cons, lowerAfter, lowerAfter, ← List.map_cons, ih, isFinalSigma, isFinalSigma,
      startsCased_toLower, startsCased_toLower, lower_toLower]
    simp only [hsigma, hdotted]

/-- **In small letters of all scripts** nothing is left of the case of ASCII letters. -/
theorem lowercase_toLower (text : String) : lowercase text.toLower = lowercase text := by
  rw [lowercase, String.toLower, String.toList_map]
  exact congrArg String.ofList (lowerAfter_toLower [] text.toList)

end Lowercase

/-! ## Features -/

namespace Features

theorem hasMonthStart_toLower (cs : List Char) :
    hasMonthStart (cs.map Char.toLower) = hasMonthStart cs := by
  induction cs with
  | nil => rfl
  | cons c cs ih =>
    have htake : (((c :: cs).map Char.toLower).take 3).map Char.toLower =
        ((c :: cs).take 3).map Char.toLower := by
      rw [← List.map_take, List.map_map]
      refine List.map_congr_left fun d _ => Char.toLower_toLower_eq_toLower d
    rw [List.map_cons, hasMonthStart, ← List.map_cons, htake, ih, hasMonthStart]

/-- The digits and the months of a text are there in any case. -/
theorem scan_toLower (text : String) :
    (scan text.toLower).digits = (scan text).digits ∧
      (scan text.toLower).monthish = (scan text).monthish := by
  simp only [scan, String.toLower, String.toList_map, hasMonthStart_toLower, List.any_map]
  exact ⟨congrArg _ (funext Ascii.isDigit_toLower), trivial⟩

end Features

end Timephrase
